import TopologyHooks.Text.Lowercase

/-!
# Hooks

* `Hook` — the moments in the life of a cluster at which an extension is called.
* `Hook.all` — the catalog, in its order; `Hook.ofSegment?` finds a hook by the segment that
  stands for it in a path, whatever the case of its letters.
-/

set_option autoImplicit false

namespace TopologyHooks

/-- A hook that an extension can serve. -/
inductive Hook
  | discoverVariables
  | generatePatches
  | validateTopology
  | beforeClusterCreate
  | afterControlPlaneInitialized
  | beforeClusterUpgrade
  | afterControlPlaneUpgrade
  | afterClusterUpgrade
  | beforeClusterDelete
  deriving DecidableEq

namespace Hook

/-- The catalog of hooks. -/
def all : List Hook :=
  [discoverVariables, generatePatches, validateTopology, beforeClusterCreate,
    afterControlPlaneInitialized, beforeClusterUpgrade, afterControlPlaneUpgrade,
    afterClusterUpgrade, beforeClusterDelete]

/-- The name of a hook. -/
def name : Hook → String
  | discoverVariables => "DiscoverVariables"
  | generatePatches => "GeneratePatches"
  | validateTopology => "ValidateTopology"
  | beforeClusterCreate => "BeforeClusterCreate"
  | afterControlPlaneInitialized => "AfterControlPlaneInitialized"
  | beforeClusterUpgrade => "BeforeClusterUpgrade"
  | afterControlPlaneUpgrade => "AfterControlPlaneUpgrade"
  | afterClusterUpgrade => "AfterClusterUpgrade"
  | beforeClusterDelete => "BeforeClusterDelete"

/-- The segment of a path that stands for a hook. -/
def segment (h : Hook) : String := Text.lowercase h.name

/-- The hook that a segment of a path stands for. -/
def ofSegment? (s : String) : Option Hook :=
  all.find? fun h => Text.lowercase h.name == Text.lowercase s

/-- Whether a hook is about the life of a cluster and not about its topology. -/
def isLifecycle : Hook → Bool
  | discoverVariables | generatePatches | validateTopology => false
  | _ => true

/-- Whether the caller of a hook waits and can be asked to call again. -/
def isBlocking : Hook → Bool
  | beforeClusterCreate | beforeClusterUpgrade | afterControlPlaneUpgrade
  | beforeClusterDelete => true
  | _ => false

/-- The kind of the request of a hook. -/
def requestKind (h : Hook) : String := h.name ++ "Request"

/-- The kind of the response of a hook. -/
def responseKind (h : Hook) : String := h.name ++ "Response"

/-- The message for a text that stands for no hook. -/
def unknownMessage (s : String) : String := "unknown hook '" ++ s ++ "'"

/-- The version of the hooks' messages. -/
def apiVersion : String := "hooks.runtime.cluster.x-k8s.io/v1alpha1"

/-- Every hook is listed. -/
theorem mem_all (h : Hook) : h ∈ all := by cases h <;> decide

end Hook

end TopologyHooks
