import TopologyHooks.Calendar.Timestamp
import TopologyHooks.Decimal.Shortest
import TopologyHooks.Encoding.Base64
import TopologyHooks.Json.Document
import TopologyHooks.Json.Pointer
import TopologyHooks.Text.Quoted

/-!
# Why a value does not have a shape

* `Found` — what stood in the place of something else, as it is named in messages.
* `Fault` — one reason why a JSON value or text is no value of a type, with its message.
-/

set_option autoImplicit false

namespace TopologyHooks

/-- What was found where something else was wanted. -/
inductive Found
  | null
  | boolean (b : Bool)
  | number (n : Number)
  | string (s : String)
  | sequence
  | map
  deriving DecidableEq

/-- The name of what was found. -/
def Found.name : Found → String
  | .null => "null"
  | .boolean b => "boolean `" ++ (if b then "true" else "false") ++ "`"
  | .number (.int n _) => "integer `" ++ toString n ++ "`"
  | .number (.double d) => "floating point `" ++ String.ofList d.render ++ "`"
  | .string s => "string " ++ Text.quoted s
  | .sequence => "sequence"
  | .map => "map"

/-- What a JSON value is found to be. -/
def Json.found : Json → Found
  | .null => .null
  | .bool b => .boolean b
  | .num n => .number n
  | .str s => .string s
  | .arr _ => .sequence
  | .obj _ => .map

/-- Why a value does not have a shape. -/
inductive Fault
  | notJson (e : SyntaxError)
  | invalidType (found : Found) (expected : String)
  | invalidValue (found : Found) (expected : String)
  | invalidLength (length : Nat) (expected : String)
  | unknownVariant (name : String) (known : List String)
  | missingField (key : String)
  | duplicateField (key : String)
  | notBase64 (e : Base64.Malformed)
  | notTimestamp (e : Timestamp.Malformed)
  | notPointer (e : Pointer.Malformed)
  deriving DecidableEq

/-- The alternatives of a closed list of names. -/
def alternatives : List String → String
  | [a] => "`" ++ a ++ "`"
  | [a, b] => "`" ++ a ++ "` or `" ++ b ++ "`"
  | names => "one of " ++ ", ".intercalate (names.map fun n => "`" ++ n ++ "`")

/-- The text of a fault. -/
def Fault.message : Fault → String
  | .notJson e => e.message
  | .invalidType found expected => "invalid type: " ++ found.name ++ ", expected " ++ expected
  | .invalidValue found expected => "invalid value: " ++ found.name ++ ", expected " ++ expected
  | .invalidLength length expected =>
    "invalid length " ++ toString length ++ ", expected " ++ expected
  | .unknownVariant name known =>
    "unknown variant `" ++ name ++ "`, expected " ++ alternatives known
  | .missingField key => "missing field `" ++ key ++ "`"
  | .duplicateField key => "duplicate field `" ++ key ++ "`"
  | .notBase64 e => e.message
  | .notTimestamp e => e.message
  | .notPointer e => e.message

end TopologyHooks
