import TopologyHooks.Proofs.Endpoint.Table
import TopologyHooks.Web.Router

/-!
# Calls as look-ups

A call of a hook looks an endpoint up and hands a request to it.

* `Hook.Request`, `Hook.requestShape` — what a hook is called with, and how that is written.
* `Endpoint.serve?` — what an endpoint does with the requests of a hook, if it can be called for it.
* `EndpointTable.dispatch_eq` — a call as a look-up, followed by reading the body and then by what
  the endpoint does.
-/

set_option autoImplicit false

namespace TopologyHooks

open Web

/-! ## Hooks and their requests -/

namespace Hook

/-- A segment stands for the hook whose name it is, whatever the case of its letters. -/
theorem ofSegment?_eq_some_iff {segment : String} {hook : Hook} :
    ofSegment? segment = some hook ↔ Text.lowercase segment = Text.lowercase hook.name := by
  constructor
  · intro h
    unfold ofSegment? at h
    have hname := List.find?_some h
    exact (beq_iff_eq.1 hname).symm
  · intro h
    have hsame : ofSegment? segment = ofSegment? hook.segment := by
      have hsegment : Text.lowercase hook.segment = Text.lowercase segment := by
        rw [h]
        cases hook <;> decide +kernel
      rw [ofSegment?, ofSegment?, hsegment]
    rw [hsame, ofSegment?_segment]

/-- What a hook is called with. -/
@[reducible] def Request : Hook → Type
  | discoverVariables => DiscoverVariablesRequest
  | generatePatches => GeneratePatches.Request
  | validateTopology => ValidateTopology.Request
  | beforeClusterCreate | afterControlPlaneInitialized | beforeClusterUpgrade
  | afterControlPlaneUpgrade | afterClusterUpgrade | beforeClusterDelete => LifecycleRequest

/-- How the requests of a hook are written. -/
def requestShape : (hook : Hook) → Shape hook.Request
  | discoverVariables => DiscoverVariablesRequest.shape
  | generatePatches => GeneratePatches.Request.shape
  | validateTopology => ValidateTopology.Request.shape
  | beforeClusterCreate | afterControlPlaneInitialized | beforeClusterUpgrade
  | afterControlPlaneUpgrade | afterClusterUpgrade | beforeClusterDelete => LifecycleRequest.shape

end Hook

/-! ## What endpoints do with requests -/

namespace Endpoint

/-- What an endpoint does with the requests of a hook, if it can be called for it. -/
def serve? : (hook : Hook) → Endpoint → Option (hook.Request → Plan Json)
  | .discoverVariables, topology handler =>
    some fun r => .answer (DiscoverVariablesResponse.shape.toJson (handler.discoverVariables r))
  | .generatePatches, topology handler =>
    some fun r => .answer (GeneratePatches.Response.shape.toJson (handler.generatePatches r .never))
  | .validateTopology, topology handler =>
    some fun r => .answer (HookResponse.shape.toJson (handler.validateTopology r))
  | .beforeClusterCreate, lifecycle handler
  | .afterControlPlaneInitialized, lifecycle handler
  | .beforeClusterUpgrade, lifecycle handler
  | .afterControlPlaneUpgrade, lifecycle handler
  | .afterClusterUpgrade, lifecycle handler
  | .beforeClusterDelete, lifecycle handler =>
    some fun r => (handler.call r).map HookResponse.shape.toJson
  | _, _ => none

variable {e : Endpoint} {hook : Hook}

/-- Whether an endpoint is a handler of the life of clusters that declares a hook about the
topology. -/
def Misplaced : Endpoint → Prop
  | topology _ => False
  | lifecycle handler => handler.hook.isLifecycle = false

/-- Three hooks are about the topology. -/
theorem mem_topologyHooks_iff : hook ∈ topologyHooks ↔
    hook = .discoverVariables ∨ hook = .generatePatches ∨ hook = .validateTopology := by
  simp [topologyHooks]

/-- A handler of the life of clusters can be called for the hooks about it, and for no others. -/
theorem serve?_lifecycle_eq_none_iff (handler : LifecycleHandler) :
    (lifecycle handler).serve? hook = none ↔ hook.isLifecycle = false := by
  cases hook <;> simp [serve?, Hook.isLifecycle]

/-- An endpoint can be called for a hook that it serves unless it is misplaced. -/
theorem serve?_eq_none_iff (h : hook ∈ e.hooks) : e.serve? hook = none ↔ e.Misplaced := by
  cases e with
  | topology handler =>
    rcases mem_topologyHooks_iff.1 h with rfl | rfl | rfl <;> simp [serve?, Misplaced]
  | lifecycle handler =>
    obtain rfl : hook = handler.hook := List.mem_singleton.1 h
    exact serve?_lifecycle_eq_none_iff handler

end Endpoint

/-! ## Calls -/

namespace EndpointTable

variable {t : EndpointTable} {hook : Hook} {segment : String}

/-- A call of no hook. -/
theorem dispatch_of_ofSegment?_eq_none (h : Hook.ofSegment? segment = none) (name : String)
    (body : Payload) : dispatch t segment name body = .error (.unknownHook segment) := by
  rw [dispatch, h]

/-- A call of a hook is answered by the endpoint that is found for it, if that can be called for the
hook. -/
theorem dispatch_eq (h : Hook.ofSegment? segment = some hook) (name : String) (body : Payload) :
    dispatch t segment name body =
      ((t.find? hook name).bind (Endpoint.serve? hook)).elim (.error (.unknownHandler hook name))
        fun serve => (readBody hook.requestShape body).map serve := by
  rw [dispatch, h]
  cases hook <;> dsimp only [topology, lifecycle] <;>
    rcases t.find? _ name with _ | handler | handler <;> rfl

end EndpointTable

end TopologyHooks
