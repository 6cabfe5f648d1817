/-!
# Kinds of templates

`TemplateKind` lists the kinds of templates that can be patched; each has the version at which it
is served and a name, and the two together tell kinds apart.
-/

set_option autoImplicit false

namespace TopologyHooks

/-- A kind of template. -/
inductive TemplateKind
  | kubeadmControlPlane
  | kubeadmConfig
  | dockerMachine
  | dockerCluster
  | awsMachine
  | awsCluster
  deriving DecidableEq

namespace TemplateKind

/-- All kinds. -/
def all : List TemplateKind :=
  [kubeadmControlPlane, kubeadmConfig, dockerMachine, dockerCluster, awsMachine, awsCluster]

/-- The version at which a kind is served. -/
def apiVersion : TemplateKind → String
  | kubeadmControlPlane => "controlplane.cluster.x-k8s.io/v1beta1"
  | kubeadmConfig => "bootstrap.cluster.x-k8s.io/v1beta1"
  | dockerMachine | dockerCluster => "infrastructure.cluster.x-k8s.io/v1beta1"
  | awsMachine | awsCluster => "infrastructure.cluster.x-k8s.io/v1beta2"

/-- The name of a kind. -/
def name : TemplateKind → String
  | kubeadmControlPlane => "KubeadmControlPlaneTemplate"
  | kubeadmConfig => "KubeadmConfigTemplate"
  | dockerMachine => "DockerMachineTemplate"
  | dockerCluster => "DockerClusterTemplate"
  | awsMachine => "AWSMachineTemplate"
  | awsCluster => "AWSClusterTemplate"

/-- A kind with its version. -/
def text (k : TemplateKind) : String := k.apiVersion ++ "/" ++ k.name

/-- The kind with a version and a name among some kinds. -/
def find? (kinds : List TemplateKind) (apiVersion name : String) : Option TemplateKind :=
  kinds.find? fun k => k.apiVersion == apiVersion && k.name == name

/-- Every kind is listed. -/
theorem mem_all (k : TemplateKind) : k ∈ all := by cases k <;> decide

/-- Kinds have names of their own. -/
theorem name_injective {k l : TemplateKind} (h : k.name = l.name) : k = l := by
  cases k <;> cases l <;> first | rfl | exact absurd h (by decide)

end TemplateKind

end TopologyHooks
