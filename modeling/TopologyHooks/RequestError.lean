import TopologyHooks.Error
import TopologyHooks.Hook

/-!
# Errors of requests

`RequestError` is answered in the place of the answer of a hook: the request names no hook or no
handler, or is not readable, or the extension itself is at fault.
-/

set_option autoImplicit false

namespace TopologyHooks

/-- Why a request is not answered by a handler. -/
inductive RequestError
  | unknownHook (segment : String)
  | unknownHandler (hook : Hook) (name : String)
  | badRequest (f : Fault)
  | config (reason : Reason)
  | internal (message : String)

namespace RequestError

/-- The text of the error. -/
def message : RequestError → String
  | unknownHook segment => "unknown hook: " ++ segment
  | unknownHandler hook name => "no handler " ++ name ++ " for hook " ++ hook.name
  | badRequest f => "bad request: " ++ f.message
  | config reason => "configuration error: " ++ reason.message
  | internal message => "internal error: " ++ message

/-- The status that an error is answered with, and its word. -/
def status : RequestError → Nat × String
  | unknownHook _ | unknownHandler _ _ => (404, "NotFound")
  | badRequest _ => (400, "BadRequest")
  | config _ | internal _ => (500, "InternalError")

/-- The body that an error is answered with. -/
def body (e : RequestError) : Json :=
  Json.object [("kind", .str "Status"), ("apiVersion", .str "v1"), ("status", .str "Failure"),
    ("message", .str e.message), ("reason", .str e.status.2), ("code", .ofNat e.status.1)]

/-- The error of a request in which an error of the extension arose. -/
def ofError : Error → RequestError
  | .config reason => config reason
  | e => internal e.message

end RequestError

end TopologyHooks
