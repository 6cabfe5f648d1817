import TopologyHooks.Message.Reference
import TopologyHooks.Message.Variable

/-!
# The messages of the other hooks

* `ValidateTopology.Request` — the templates of a topology, to be validated.
* `LifecycleRequest` — a cluster at some moment of its life.
* `HookResponse` — the answer to both: success, or a failure with a message. The caller of a
  blocking hook can be asked to call again.
-/

set_option autoImplicit false

namespace TopologyHooks

namespace ValidateTopology

/-- A template of a topology. -/
structure RequestItem where
  holderReference : HolderReference
  object : Json
  bindings : List ClusterVariable
  deriving DecidableEq

/-- How a template of a topology is written. -/
def RequestItem.shape : Shape RequestItem :=
  .struct "ValidateTopologyRequestItem"
    (.required "holderReference" HolderReference.shape <|
     .required "object" .json <|
     Message.many "variables" ClusterVariable.shape .done)
    (fun (holder, object, bindings, _) => ⟨holder, object, bindings⟩)
    (fun i => (i.holderReference, i.object, i.bindings, ()))

/-- A request to validate a topology. -/
structure Request where
  apiVersion : String
  kind : String
  settings : Settings
  bindings : List ClusterVariable
  items : List RequestItem

/-- How the request is written. -/
def Request.shape : Shape Request :=
  .struct "ValidateTopologyRequest"
    (Message.version <| Message.kind <| Message.settings <|
     Message.many "variables" ClusterVariable.shape <|
     Message.many "items" RequestItem.shape .done)
    (fun (version, kind, settings, bindings, items, _) =>
      ⟨version, kind, settings, bindings, items⟩)
    (fun r => (r.apiVersion, r.kind, r.settings, r.bindings, r.items, ()))

/-- The request without contents. -/
def Request.blank : Request := ⟨"", "", ∅, [], []⟩

end ValidateTopology

/-- A cluster at some moment of its life. -/
structure LifecycleRequest where
  apiVersion : String
  kind : String
  settings : Settings
  cluster : Json
  fromKubernetesVersion : Option String
  toKubernetesVersion : Option String
  kubernetesVersion : Option String

/-- How the request is written. -/
def LifecycleRequest.shape : Shape LifecycleRequest :=
  .struct "LifecycleRequest"
    (Message.version <| Message.kind <| Message.settings <|
     .defaulted "cluster" .null .json <|
     .optional "fromKubernetesVersion" .text <|
     .optional "toKubernetesVersion" .text <|
     .optional "kubernetesVersion" .text .done)
    (fun (version, kind, settings, cluster, old, new, now, _) =>
      ⟨version, kind, settings, cluster, old, new, now⟩)
    (fun r => (r.apiVersion, r.kind, r.settings, r.cluster, r.fromKubernetesVersion,
      r.toKubernetesVersion, r.kubernetesVersion, ()))

/-- The answer to a validation or to a lifecycle hook. -/
structure HookResponse where
  apiVersion : String
  kind : String
  status : Status
  message : String
  retryAfterSeconds : Option Signed32
  deriving DecidableEq

namespace HookResponse

/-- How the answer is written. -/
def shape : Shape HookResponse :=
  .struct "HookResponse"
    (.required "apiVersion" .text <|
     .required "kind" .text <|
     .required "status" Status.shape <|
     .worded "message" .text <|
     .optional "retryAfterSeconds" .signed32 .done)
    (fun (version, kind, status, message, retry, _) => ⟨version, kind, status, message, retry⟩)
    (fun r => (r.apiVersion, r.kind, r.status, r.message, r.retryAfterSeconds, ()))

/-- The answer that all went well. -/
def success (hook : Hook) : HookResponse :=
  ⟨Hook.apiVersion, hook.responseKind, .success, "", none⟩

/-- The answer that something failed. -/
def failure (hook : Hook) (message : String) : HookResponse :=
  { success hook with status := .failure, message := message }

/-- Asks the caller of a blocking hook to call again. -/
def withRetryAfter (r : HookResponse) (hook : Hook) (seconds : Signed32) : HookResponse :=
  if hook.isBlocking then { r with retryAfterSeconds := some seconds } else r

end HookResponse

end TopologyHooks
