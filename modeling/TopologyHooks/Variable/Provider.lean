import TopologyHooks.Variable.ClusterConfig

/-!
# Settings of the providers

The values of `clusterConfig` and `workerConfig` for clusters on Docker and on AWS. A provider's
`clusterConfig` holds the shared settings among its own.
-/

set_option autoImplicit false

namespace TopologyHooks

/-- The variable for one group of workers. -/
def workerConfigName : String := "workerConfig"

/-! ## Docker -/

namespace Docker

/-- Settings of a node on Docker. -/
structure NodeSpec where
  customImage : Option String
  deriving DecidableEq

/-- How the settings of a node are written. -/
def NodeSpec.shape : Shape NodeSpec :=
  .described "Docker machine settings" <|
  .struct "DockerNodeSpec"
    (.optional "customImage"
      (.described "Node image; defaults to the kind node image for the topology version"
        .text) .done)
    (fun (image, _) => ⟨image⟩) (fun s => (s.customImage, ()))

/-- Settings of the control plane on Docker. -/
structure ControlPlaneSpec where
  docker : Option NodeSpec
  deriving DecidableEq

/-- How the settings of the control plane are written. -/
def ControlPlaneSpec.shape : Shape ControlPlaneSpec :=
  .described "Control plane settings for Docker clusters" <|
  .struct "DockerControlPlaneSpec"
    (.optional "docker" (.described "Docker machine settings" NodeSpec.shape) .done)
    (fun (docker, _) => ⟨docker⟩) (fun s => (s.docker, ()))

/-- Settings of a group of workers on Docker. -/
structure WorkerConfig where
  docker : Option NodeSpec
  deriving DecidableEq

/-- How the settings of workers are written. -/
def WorkerConfig.shape : Shape WorkerConfig :=
  .described "`workerConfig` for Docker machine deployments" <|
  .struct "DockerWorkerConfig"
    (.optional "docker" (.described "Docker machine settings" NodeSpec.shape) .done)
    (fun (docker, _) => ⟨docker⟩) (fun c => (c.docker, ()))

/-- Settings of a cluster on Docker. -/
structure Config where
  shared : ClusterConfig
  controlPlane : Option ControlPlaneSpec
  deriving DecidableEq

/-- How the settings of a cluster are written. -/
def Config.shape : Shape Config :=
  .described "`clusterConfig` for Docker clusters" <|
  .flattened ⟨"struct DockerClusterConfig", false⟩
    (.optional "controlPlane"
      (.described "Control plane machine settings" ControlPlaneSpec.shape) .done)
    ClusterConfig.fields
    (fun ((plane, _), row) => ⟨.ofRow row, plane⟩)
    (fun c => ((c.controlPlane, ()), c.shared.row))

end Docker

/-! ## AWS -/

namespace Aws

/-- Settings of a node on AWS. -/
structure NodeSpec where
  instanceType : String
  deriving DecidableEq

/-- How the settings of a node are written. -/
def NodeSpec.shape : Shape NodeSpec :=
  .described "EC2 machine settings" <|
  .struct "AwsNodeSpec"
    (.required "instanceType"
      (.described "EC2 instance type (e.g., \"m5.xlarge\")" .text) .done)
    (fun (type, _) => ⟨type⟩) (fun s => (s.instanceType, ()))

/-- Settings of the control plane on AWS. -/
structure ControlPlaneSpec where
  aws : Option NodeSpec
  deriving DecidableEq

/-- How the settings of the control plane are written. -/
def ControlPlaneSpec.shape : Shape ControlPlaneSpec :=
  .described "Control plane settings for AWS clusters" <|
  .struct "AwsControlPlaneSpec"
    (.optional "aws" (.described "EC2 machine settings" NodeSpec.shape) .done)
    (fun (aws, _) => ⟨aws⟩) (fun s => (s.aws, ()))

/-- Settings of a group of workers on AWS. -/
structure WorkerConfig where
  aws : Option NodeSpec
  deriving DecidableEq

/-- How the settings of workers are written. -/
def WorkerConfig.shape : Shape WorkerConfig :=
  .described "`workerConfig` for AWS machine deployments" <|
  .struct "AwsWorkerConfig"
    (.optional "aws" (.described "EC2 machine settings" NodeSpec.shape) .done)
    (fun (aws, _) => ⟨aws⟩) (fun c => (c.aws, ()))

/-- Settings of AWS for a whole cluster. -/
structure Spec where
  region : Option String
  deriving DecidableEq

/-- How the settings of AWS are written. -/
def Spec.shape : Shape Spec :=
  .described "Cluster-wide AWS settings" <|
  .struct "AwsSpec"
    (.optional "region" (.described "AWS region (e.g., \"us-west-2\")" .text) .done)
    (fun (region, _) => ⟨region⟩) (fun s => (s.region, ()))

/-- Settings of a cluster on AWS. -/
structure Config where
  shared : ClusterConfig
  aws : Option Spec
  controlPlane : Option ControlPlaneSpec
  deriving DecidableEq

/-- How the settings of a cluster are written. -/
def Config.shape : Shape Config :=
  .described "`clusterConfig` for AWS clusters" <|
  .flattened ⟨"struct AwsClusterConfig", false⟩
    (.optional "aws" (.described "Cluster-wide AWS settings" Spec.shape) <|
     .optional "controlPlane"
      (.described "Control plane machine settings" ControlPlaneSpec.shape) .done)
    ClusterConfig.fields
    (fun ((aws, plane, _), row) => ⟨.ofRow row, aws, plane⟩)
    (fun c => ((c.aws, c.controlPlane, ()), c.shared.row))

end Aws

end TopologyHooks
