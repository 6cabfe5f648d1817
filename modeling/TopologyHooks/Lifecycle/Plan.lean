import TopologyHooks.Error
import TopologyHooks.Message.HookResponse

/-!
# Handlers of the life of clusters

* `Write` — new topology variables for a live cluster.
* `Plan` — what a handler does: it answers, or makes a write and goes on according to how that
  went. A plan is plain data up to its next write, so that what a handler asks of the cluster can
  be seen without a cluster; `Plan.run` carries it out with a client.
* `LifecycleHandler` — a named handler for one hook.
-/

set_option autoImplicit false

namespace TopologyHooks

/-- New topology variables for a live cluster. -/
structure Write where
  namespaceName : String
  name : String
  bindings : List ClusterVariable
  deriving DecidableEq

/-- An answer, or a write and what follows each of its outcomes. -/
inductive Plan (α : Type)
  | answer (a : α)
  | write (w : Write) (next : Except Error Unit → Plan α)

namespace Plan

variable {α β : Type}

/-- Changes the answers of a plan. -/
def map (f : α → β) : Plan α → Plan β
  | answer a => answer (f a)
  | write w next => write w fun outcome => (next outcome).map f

/-- Carries a plan out with a client, which says how every write goes. -/
def run (client : Write → Except Error Unit) : Plan α → α
  | answer a => a
  | write w next => (next (client w)).run client

/-- The writes that are made when a plan is carried out with a client. -/
def writes (client : Write → Except Error Unit) : Plan α → List Write
  | answer _ => []
  | write w next => w :: (next (client w)).writes client

end Plan

/-- A handler for one hook about the life of clusters. -/
structure LifecycleHandler where
  name : String
  hook : Hook
  call : LifecycleRequest → Plan HookResponse

namespace LifecycleHandler

/-- The handler that always answers that all went well. -/
def idle (name : String) (hook : Hook) : LifecycleHandler :=
  ⟨name, hook, fun _ => .answer (.success hook)⟩

end LifecycleHandler

end TopologyHooks
