import TopologyHooks.Shape.Write

/-!
# What the cluster tells about itself

`Builtins` is the value of the variable `builtin`, which callers of hooks set: the cluster, its
control plane and the group of workers that a template belongs to.
-/

set_option autoImplicit false

namespace TopologyHooks

namespace Builtins

/-- The variable that callers set. -/
def variableName : String := "builtin"

/-- The topology of a cluster. -/
structure Topology where
  version : String
  cls : String
  deriving DecidableEq

/-- How a topology is written. -/
def Topology.shape : Shape Topology :=
  .struct "ClusterTopologyBuiltins"
    (.defaulted "version" "" .text <| .defaulted "class" "" .text .done)
    (fun (version, cls, _) => ⟨version, cls⟩) (fun t => (t.version, t.cls, ()))

/-- A cluster. -/
structure Cluster where
  name : String
  namespaceName : String
  topology : Option Topology
  deriving DecidableEq

/-- How a cluster is written. -/
def Cluster.shape : Shape Cluster :=
  .struct "ClusterBuiltins"
    (.defaulted "name" "" .text <|
     .defaulted "namespace" "" .text <|
     .optional "topology" Topology.shape .done)
    (fun (name, space, topology, _) => ⟨name, space, topology⟩)
    (fun c => (c.name, c.namespaceName, c.topology, ()))

/-- A control plane. -/
structure ControlPlane where
  version : String
  name : String
  replicas : Option Signed64
  deriving DecidableEq

/-- How a control plane is written. -/
def ControlPlane.shape : Shape ControlPlane :=
  .struct "ControlPlaneBuiltins"
    (.defaulted "version" "" .text <|
     .defaulted "name" "" .text <|
     .optional "replicas" .signed64 .done)
    (fun (version, name, replicas, _) => ⟨version, name, replicas⟩)
    (fun c => (c.version, c.name, c.replicas, ()))

/-- A group of workers. -/
structure MachineDeployment where
  version : String
  cls : String
  name : String
  topologyName : String
  replicas : Option Signed64
  deriving DecidableEq

/-- How a group of workers is written. -/
def MachineDeployment.shape : Shape MachineDeployment :=
  .struct "MachineDeploymentBuiltins"
    (.defaulted "version" "" .text <|
     .defaulted "class" "" .text <|
     .defaulted "name" "" .text <|
     .defaulted "topologyName" "" .text <|
     .optional "replicas" .signed64 .done)
    (fun (version, cls, name, topologyName, replicas, _) =>
      ⟨version, cls, name, topologyName, replicas⟩)
    (fun d => (d.version, d.cls, d.name, d.topologyName, d.replicas, ()))

/-- The path of the class of the group of workers. -/
def deploymentClass : List String := ["machineDeployment", "class"]

/-- The path of the version of the group of workers. -/
def deploymentVersion : List String := ["machineDeployment", "version"]

/-- The path of the version of the control plane. -/
def controlPlaneVersion : List String := ["controlPlane", "version"]

/-- The path of the version of the topology. -/
def topologyVersion : List String := ["cluster", "topology", "version"]

end Builtins

/-- What a cluster tells about itself. -/
structure Builtins where
  cluster : Option Builtins.Cluster
  controlPlane : Option Builtins.ControlPlane
  machineDeployment : Option Builtins.MachineDeployment
  deriving DecidableEq

/-- How it is written. -/
def Builtins.shape : Shape Builtins :=
  .struct "Builtins"
    (.optional "cluster" Builtins.Cluster.shape <|
     .optional "controlPlane" Builtins.ControlPlane.shape <|
     .optional "machineDeployment" Builtins.MachineDeployment.shape .done)
    (fun (cluster, plane, deployment, _) => ⟨cluster, plane, deployment⟩)
    (fun b => (b.cluster, b.controlPlane, b.machineDeployment, ()))

end TopologyHooks
