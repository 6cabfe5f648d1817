import TopologyHooks.Mutator
import TopologyHooks.Variable.Provider

/-!
# Building mutators of features

A feature reads one variable and changes the specification of a template: `Feature.mutator` makes
a mutator of that. Features of nodes change the set-up of both the nodes of the control plane and
the workers (`Feature.onNodes`).
-/

set_option autoImplicit false

namespace TopologyHooks

namespace Feature

/-- A path inside the settings of the whole cluster. -/
def clusterConfig (path : List String) : VariableRef := ⟨ClusterConfig.variableName, path⟩

/-- A path inside the settings of a group of workers. -/
def workerConfig (path : List String) : VariableRef := ⟨workerConfigName, path⟩

/-- A change of the specification alone. -/
def onSpec {k : TemplateKind} (change : k.Spec → Except Error k.Spec) : Mutation.Change k :=
  fun t => (change t.spec).map fun spec => { t with spec := spec }

/-- A mutator that does nothing while its variable is unset. -/
def mutator {α : Type} (name : String) (source : VariableRef) (k : TemplateKind)
    (selector : TemplateKind → PatchSelector) (input : Shape α)
    (change : α → k.Spec → Except Error k.Spec) : Mutator where
  name := name
  reads := source
  kind := k
  selector := selector k
  Input := α
  input := input
  fallback := none
  change := fun _ value => onSpec (change value)

/-- A mutator for the nodes of the control plane. -/
def onControlPlane {α : Type} (name : String) (source : VariableRef) (input : Shape α)
    (change : α → KubeadmConfigSpec → Except Error KubeadmConfigSpec) : Mutator :=
  mutator name source .kubeadmControlPlane .controlPlane input change

/-- A mutator for the nodes of all groups of workers. -/
def onWorkers {α : Type} (name : String) (source : VariableRef) (input : Shape α)
    (change : α → KubeadmConfigSpec → Except Error KubeadmConfigSpec) : Mutator :=
  mutator name source .kubeadmConfig .allWorkers input change

end Feature

end TopologyHooks
