import TopologyHooks.Patch.Apply
import TopologyHooks.Schema.Narrow
import TopologyHooks.Template.Kind
import TopologyHooks.Text.Quoted

/-!
# Errors

* `Reason` — what went wrong, with its text.
* `ApiError` — what a cluster's API server or the way to it answers instead of a result.
* `Error` — a reason with the place where it matters: the variable, the kind of object, the
  mutator. `Error.message` is the text that callers of hooks see, and `Error.isRetryable` tells
  whether the same call may succeed later.
-/

set_option autoImplicit false

namespace TopologyHooks

/-- What went wrong. -/
inductive Reason
  /-- Something in words of its own. -/
  | stated (text : String)
  | fault (f : Fault)
  | notJson (e : SyntaxError)
  | cannotDescend (segment : String) (found : Json)
  | cannotSet (segment : String)
  | otherKind (actual expected : TemplateKind)
  | failedPatch (uid : String) (f : Patch.Failure)
  | schemaFault (f : SchemaFault)
  | definedTwice (handler : String)
  | undefinedVariable (mutator : String)
  | undeclaredPath (mutator reference : String)
  | otherSelector (mutator apiVersion kind : String) (expected : TemplateKind)
  | unregisteredTemplate (mutator : String) (kind : TemplateKind)
  | registeredTwice (handler hook : String)
  | cancelledBefore (handler uid : String)
  | emptySetting (name : String)
  | topologyVariables (f : Fault)
  | timeoutOutOfRange (seconds : Nat)
  | retryNotPositive
  | missingFiles

/-- The text of a reason. -/
def Reason.message : Reason → String
  | .stated text => text
  | .fault f => f.message
  | .notJson e => e.message
  | .cannotDescend segment found =>
    "expected an object to descend into " ++ Text.quoted segment ++ ", found " ++ found.kindName
  | .cannotSet segment => "cannot set " ++ Text.quoted segment ++ ": parent is not an object"
  | .otherKind actual expected =>
    "object is a " ++ actual.text ++ ", expected " ++ expected.text
  | .failedPatch uid f => "applying patch for item " ++ uid ++ ": " ++ f.message
  | .schemaFault f => f.message
  | .definedTwice handler => "variable defined twice in handler " ++ handler
  | .undefinedVariable mutator =>
    "mutator " ++ mutator ++ " reads a variable the handler does not define"
  | .undeclaredPath mutator reference =>
    "mutator " ++ mutator ++ " reads " ++ reference ++ " which is not in the advertised schema"
  | .otherSelector mutator apiVersion kind expected =>
    "mutator " ++ mutator ++ " selects " ++ apiVersion ++ "/" ++ kind ++ " but mutates "
      ++ expected.text
  | .unregisteredTemplate mutator kind =>
    "mutator " ++ mutator ++ " mutates " ++ kind.text ++ " which is not in the object registry"
  | .registeredTwice handler hook =>
    "handler " ++ handler ++ " registered twice for hook " ++ hook
  | .cancelledBefore handler uid => "handler " ++ handler ++ " cancelled before item " ++ uid
  | .emptySetting name => name ++ " must not be empty"
  | .topologyVariables f => "cluster topology variables: " ++ f.message
  | .timeoutOutOfRange seconds =>
    "timeout-seconds must be between 1 and 30, got " ++ toString seconds
  | .retryNotPositive => "retry-after-seconds must be greater than 0"
  | .missingFiles =>
    "tls-cert-file and tls-key-file are required unless insecure-http is set"

/-! ## The cluster's API server -/

/-- The refusal of an API server. -/
structure Refusal where
  status : String
  message : String
  reason : String
  code : Nat
  deriving DecidableEq

/-- What an API server, or the way to it, answers instead of a result. -/
inductive ApiError
  | refused (r : Refusal)
  /-- The answer is no object of the cluster. -/
  | unreadable (f : Fault)
  /-- The answer has a line without end. -/
  | endlessLine
  /-- A request without the name of an object. -/
  | noName

namespace ApiError

/-- The text of an API error. -/
def message : ApiError → String
  | refused r =>
    "ApiError: " ++ r.message ++ ": " ++ r.reason ++ " (ErrorResponse \x7b status: "
      ++ Text.quoted r.status ++ ", message: " ++ Text.quoted r.message ++ ", reason: "
      ++ Text.quoted r.reason ++ ", code: " ++ toString r.code ++ " \x7d)"
  | unreadable f => "Error deserializing response: " ++ f.message
  | endlessLine => "Error finding newline character"
  | noName =>
    "Failed to build request: failed to validate request: A non-empty name is required"

/-- Whether the API server refused the request for what it asks. -/
def isRefusal : ApiError → Bool
  | refused r => decide (400 ≤ r.code ∧ r.code < 500)
  | _ => false

end ApiError

/-! ## Errors in their place -/

/-- An error. -/
inductive Error
  | kube (e : ApiError)
  | variable (name : String) (path : List String) (reason : Reason)
  | decode (kind : String) (reason : Reason)
  | unregisteredKind (apiVersion kind : String)
  | mutation (mutator : String) (reason : Reason)
  | patch (reason : Reason)
  | schema (name : String) (reason : Reason)
  | cancelled (reason : Reason)
  | serialization (kind : Option String) (reason : Reason)
  | config (reason : Reason)
  | internal (context : String) (reason : Reason)

namespace Error

/-- The text of an error. -/
def message : Error → String
  | kube e => "kubernetes error: " ++ e.message
  | .variable name path reason =>
    "variable error for " ++ name ++ " at [" ++ ".".intercalate path ++ "]: " ++ reason.message
  | decode kind reason => "decode error for " ++ kind ++ ": " ++ reason.message
  | unregisteredKind apiVersion kind =>
    "unregistered object kind " ++ apiVersion ++ "/" ++ kind
  | mutation mutator reason => "mutation error [" ++ mutator ++ "]: " ++ reason.message
  | patch reason => "patch error: " ++ reason.message
  | schema name reason => "schema error for " ++ name ++ ": " ++ reason.message
  | cancelled reason => "request cancelled: " ++ reason.message
  | serialization _ reason => "serialization error: " ++ reason.message
  | config reason => "configuration error: " ++ reason.message
  | internal context reason => "internal error [" ++ context ++ "]: " ++ reason.message

/-- The context of an internal error that names none. -/
def unknownContext : String := "unknown"

/-- Whether the same call may succeed later. -/
def isRetryable : Error → Bool
  | kube e => !e.isRefusal
  | cancelled _ | internal _ _ => true
  | _ => false

/-- The variable that an error is about. -/
def variableName? : Error → Option String
  | .variable name _ _ => some name
  | schema name _ => some name
  | _ => none

end Error

end TopologyHooks
