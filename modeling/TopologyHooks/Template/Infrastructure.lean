import TopologyHooks.Template.Basic

/-!
# Machines and clusters of the providers

What the objects of Docker and AWS clusters are described by.
-/

set_option autoImplicit false

namespace TopologyHooks

/-! ## Docker -/

namespace Docker

/-- A machine on Docker. -/
structure MachineSpec where
  customImage : Option String
  preLoadImages : Option (List String)
  deriving DecidableEq

/-- A machine without settings. -/
def MachineSpec.blank : MachineSpec := ⟨none, none⟩

/-- How a machine is written. -/
def MachineSpec.shape : Shape MachineSpec :=
  .struct "DockerMachineSpec"
    (.optional "customImage" .text <| .optional "preLoadImages" (.list .text) .done)
    (fun (image, images, _) => ⟨image, images⟩) (fun s => (s.customImage, s.preLoadImages, ()))

/-- The load balancer in front of a control plane. -/
structure LoadBalancer where
  imageRepository : Option String
  imageTag : Option String
  deriving DecidableEq

/-- How a load balancer is written. -/
def LoadBalancer.shape : Shape LoadBalancer :=
  .struct "DockerLoadBalancer"
    (.optional "imageRepository" .text <| .optional "imageTag" .text .done)
    (fun (repository, tag, _) => ⟨repository, tag⟩) (fun b => (b.imageRepository, b.imageTag, ()))

/-- The infrastructure of a cluster on Docker. -/
structure ClusterSpec where
  loadBalancer : Option LoadBalancer
  deriving DecidableEq

/-- An infrastructure without settings. -/
def ClusterSpec.blank : ClusterSpec := ⟨none⟩

/-- How the infrastructure of a cluster is written. -/
def ClusterSpec.shape : Shape ClusterSpec :=
  .struct "DockerClusterSpec" (.optional "loadBalancer" LoadBalancer.shape .done)
    (fun (balancer, _) => ⟨balancer⟩) (fun s => (s.loadBalancer, ()))

end Docker

/-! ## AWS -/

namespace Aws

/-- A machine on AWS. -/
structure MachineSpec where
  instanceType : String
  iamInstanceProfile : Option String
  sshKeyName : Option String
  deriving DecidableEq

/-- A machine without settings. -/
def MachineSpec.blank : MachineSpec := ⟨"", none, none⟩

/-- How a machine is written. -/
def MachineSpec.shape : Shape MachineSpec :=
  .struct "AwsMachineSpec"
    (.worded "instanceType" .text <|
     .optional "iamInstanceProfile" .text <|
     .optional "sshKeyName" .text .done)
    (fun (type, profile, key, _) => ⟨type, profile, key⟩)
    (fun s => (s.instanceType, s.iamInstanceProfile, s.sshKeyName, ()))

/-- The infrastructure of a cluster on AWS. -/
structure ClusterSpec where
  region : Option String
  sshKeyName : Option String
  deriving DecidableEq

/-- An infrastructure without settings. -/
def ClusterSpec.blank : ClusterSpec := ⟨none, none⟩

/-- How the infrastructure of a cluster is written. -/
def ClusterSpec.shape : Shape ClusterSpec :=
  .struct "AwsClusterSpec"
    (.optional "region" .text <| .optional "sshKeyName" .text .done)
    (fun (region, key, _) => ⟨region, key⟩) (fun s => (s.region, s.sshKeyName, ()))

end Aws

end TopologyHooks
