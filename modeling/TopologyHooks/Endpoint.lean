import TopologyHooks.Handler
import TopologyHooks.Lifecycle.Plan
import TopologyHooks.Message.Discovery
import TopologyHooks.RequestError

/-!
# Endpoints

* `Endpoint` — a handler with the hooks that it serves.
* `EndpointTable` — all endpoints of an extension. Discovery and the calls of hooks both read this
  table. A handler is offered and called once per hook, under a name made of its own and the
  hook's (`Endpoint.discoveryName`), because names in discovery must differ.
* `EndpointTable.register` — adds an endpoint unless one of its names is taken.
-/

set_option autoImplicit false

namespace TopologyHooks

/-- What serves a hook. -/
inductive Endpoint : Type 1
  | topology (handler : Handler)
  | lifecycle (handler : LifecycleHandler)

namespace Endpoint

/-- The hooks about the topology of clusters. -/
def topologyHooks : List Hook := [.discoverVariables, .generatePatches, .validateTopology]

/-- The hooks that an endpoint serves. -/
def hooks : Endpoint → List Hook
  | topology _ => topologyHooks
  | lifecycle handler => [handler.hook]

/-- The name of the handler of an endpoint. -/
def name : Endpoint → String
  | topology handler => handler.name
  | lifecycle handler => handler.name

/-- The name under which a handler is offered for a hook. -/
def discoveryName (handler : String) (hook : Hook) : String := handler ++ "-" ++ hook.segment

/-- Whether an endpoint is offered for a hook under a name. -/
def answersTo (e : Endpoint) (hook : Hook) (name : String) : Bool :=
  e.hooks.contains hook && discoveryName e.name hook == name

/-- The text that shows an endpoint. -/
def text : Endpoint → String
  | topology handler => "Patches(" ++ Text.quoted handler.name ++ ")"
  | lifecycle handler =>
    "Lifecycle(" ++ Text.quoted handler.name ++ ", " ++ handler.hook.name ++ ")"

end Endpoint

/-- All endpoints of an extension, and what discovery tells callers about all of them. -/
structure EndpointTable : Type 1 where
  endpoints : List Endpoint
  timeoutSeconds : Unsigned32
  failurePolicy : FailurePolicy

namespace EndpointTable

/-- The longest time that callers wait for an answer. -/
def maxTimeoutSeconds : Int := 30

/-- The table without endpoints. -/
def empty (timeoutSeconds : Unsigned32) (failurePolicy : FailurePolicy) : EndpointTable :=
  ⟨[], timeoutSeconds, failurePolicy⟩

/-- Whether there are no endpoints. -/
def isEmpty (t : EndpointTable) : Bool := t.endpoints.isEmpty

/-- The endpoint that is offered for a hook under a name. -/
def find? (t : EndpointTable) (hook : Hook) (name : String) : Option Endpoint :=
  t.endpoints.find? fun e => e.answersTo hook name

/-- The first hook of an endpoint whose name is taken. -/
def taken? (t : EndpointTable) (e : Endpoint) : Option Hook :=
  e.hooks.find? fun hook => (t.find? hook (Endpoint.discoveryName e.name hook)).isSome

/-- Adds an endpoint. -/
def register (t : EndpointTable) (e : Endpoint) : Except RequestError EndpointTable :=
  match t.taken? e with
  | some hook => .error (.config (.registeredTwice e.name hook.name))
  | none => .ok { t with endpoints := t.endpoints ++ [e] }

/-- The handler of the topology that is offered for a hook under a name. -/
def topology (t : EndpointTable) (hook : Hook) (name : String) : Except RequestError Handler :=
  match t.find? hook name with
  | some (.topology handler) => .ok handler
  | _ => .error (.unknownHandler hook name)

/-- The handler of the life of clusters that is offered for a hook under a name. -/
def lifecycle (t : EndpointTable) (hook : Hook) (name : String) :
    Except RequestError LifecycleHandler :=
  match t.find? hook name with
  | some (.lifecycle handler) => .ok handler
  | _ => .error (.unknownHandler hook name)

/-! ## Discovery -/

/-- The time that callers are told to wait. -/
def offeredTimeout (t : EndpointTable) : Signed32 :=
  Bounded.clamp (by decide) (min t.timeoutSeconds.val maxTimeoutSeconds)

/-- What discovery tells about an endpoint and one of its hooks. -/
def offer (t : EndpointTable) (e : Endpoint) (hook : Hook) : ExtensionHandler where
  name := Endpoint.discoveryName e.name hook
  requestHook := ⟨Hook.apiVersion, hook.name⟩
  timeoutSeconds := some t.offeredTimeout
  failurePolicy := some t.failurePolicy

/-- All that is offered. -/
def discovery (t : EndpointTable) : DiscoveryResponse :=
  .offering (t.endpoints.flatMap fun e => e.hooks.map (t.offer e))

/-- The text that shows a table. -/
def text (t : EndpointTable) : String :=
  "HandlerRegistry \x7b handlers: [" ++ ", ".intercalate (t.endpoints.map Endpoint.text)
    ++ "], timeout_seconds: " ++ toString t.timeoutSeconds.val ++ ", failure_policy: "
    ++ t.failurePolicy.name ++ " \x7d"

end EndpointTable

end TopologyHooks
