import TopologyHooks.Message.Status

/-!
# Discovery

* `ExtensionHandler` — one handler that an extension offers for one hook.
* `DiscoveryResponse` — all that an extension offers.
-/

set_option autoImplicit false

namespace TopologyHooks

/-- A hook with the version of its messages. -/
structure HookVersion where
  apiVersion : String
  hook : String
  deriving DecidableEq

/-- How a hook with its version is written. -/
def HookVersion.shape : Shape HookVersion :=
  .struct "GroupVersionHook" (.required "apiVersion" .text <| .required "hook" .text .done)
    (fun (version, hook, _) => ⟨version, hook⟩) (fun h => (h.apiVersion, h.hook, ()))

/-- A handler for a hook. -/
structure ExtensionHandler where
  name : String
  requestHook : HookVersion
  timeoutSeconds : Option Signed32
  failurePolicy : Option FailurePolicy
  deriving DecidableEq

/-- How a handler is written. -/
def ExtensionHandler.shape : Shape ExtensionHandler :=
  .struct "ExtensionHandler"
    (.required "name" .text <|
     .required "requestHook" HookVersion.shape <|
     .optional "timeoutSeconds" .signed32 <|
     .optional "failurePolicy" FailurePolicy.shape .done)
    (fun (name, hook, timeout, policy, _) => ⟨name, hook, timeout, policy⟩)
    (fun h => (h.name, h.requestHook, h.timeoutSeconds, h.failurePolicy, ()))

/-- What an extension offers. -/
structure DiscoveryResponse where
  apiVersion : String
  kind : String
  status : Status
  message : String
  handlers : List ExtensionHandler
  deriving DecidableEq

namespace DiscoveryResponse

/-- How the answer to discovery is written. -/
def shape : Shape DiscoveryResponse :=
  .struct "DiscoveryResponse"
    (Message.version <| Message.kind <|
     .defaulted "status" .success Status.shape <|
     .worded "message" .text <|
     Message.many "handlers" ExtensionHandler.shape .done)
    (fun (version, kind, status, message, handlers, _) =>
      ⟨version, kind, status, message, handlers⟩)
    (fun r => (r.apiVersion, r.kind, r.status, r.message, r.handlers, ()))

/-- The answer that offers some handlers. -/
def offering (handlers : List ExtensionHandler) : DiscoveryResponse :=
  ⟨Hook.apiVersion, "DiscoveryResponse", .success, "", handlers⟩

end DiscoveryResponse

end TopologyHooks
