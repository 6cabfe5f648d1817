import TopologyHooks.Json.Printer
import TopologyHooks.Schema.Props
import TopologyHooks.Shape.Schema

/-!
# Narrowing JSON schemas

Clusters accept only schemas that spell out one structure. `Schema.narrow` turns a general JSON
schema into such a one, node by node:

* a schema that holds for everything allows unknown fields;
* references and unions are refused (`Schema.refusal?`);
* a conjunction of a single schema is merged into its parent (`Schema.mergeSingle`);
* keywords without a counterpart are dropped, and bounds become integers (`Schema.tidy`);
* the schemas of properties, items and additional properties are narrowed in turn.

`Shape.advertised` is the schema of a shape after that.
-/

set_option autoImplicit false

namespace TopologyHooks

/-- Why a schema cannot be narrowed. -/
inductive SchemaFault
  | unsupported (node : Json)
  | recursive
  | union (keyword : String)
  /-- What is left is still no variable schema. -/
  | notStructural (f : Fault)

/-- The text of a schema fault. -/
def SchemaFault.message : SchemaFault → String
  | .unsupported node => "unsupported schema node: " ++ node.render
  | .recursive => "recursive types cannot be used as variable values"
  | .union keyword =>
    "`" ++ keyword ++ "` is not supported in variable schemas; use a plain string enum"
  | .notStructural f => "schema is not structural: " ++ f.message

namespace Schema

/-- The members of a schema node. -/
abbrev Members := List (String × Json)

/-- Whether a keyword is present. -/
def has (keyword : String) (members : Members) : Bool := (Assoc.get? keyword members).isSome

/-- The keyword under which unknown fields are kept. -/
def preserveKeyword : String := "x-kubernetes-preserve-unknown-fields"

/-- The keywords of unions. -/
def unionKeywords : List String := ["oneOf", "anyOf", "not"]

/-- Why a node is refused. -/
def refusal? (members : Members) : Option SchemaFault :=
  if has "$ref" members then some .recursive
  else (unionKeywords.find? (has · members)).map .union

/-! ## Conjunctions -/

/-- Adds the members of a schema that are not there yet. -/
def addMissing (members extra : Members) : Members :=
  extra.foldl (fun acc e => if has e.1 acc then acc else Assoc.insert e.1 e.2 acc) members

/-- Merges a conjunction of a single schema into its parent. -/
def mergeSingle (members : Members) : Members :=
  match Assoc.get? "allOf" members with
  | some (.arr [.obj extra]) => addMissing (Assoc.erase "allOf" members) extra
  | some (.arr [_]) => Assoc.erase "allOf" members
  | _ => members

/-! ## Keywords -/

/-- Keywords that are dropped. -/
def droppedKeywords : List String :=
  ["$schema", "$id", "definitions", "title", "nullable", "readOnly", "writeOnly", "deprecated",
    "examples"]

/-- Keywords of which one makes a schema typed. -/
def typingKeywords : List String :=
  ["type", "properties", "items", "additionalProperties", "enum"]

/-- Formats that clusters validate. -/
def knownFormats : List String :=
  ["bsonobjectid", "uri", "email", "hostname", "ipv4", "ipv6", "cidr", "mac", "uuid", "byte",
    "password", "date", "duration", "date-time", "int32", "int64", "float", "double"]

/-- Drops the keywords without a counterpart. -/
def dropKeywords (members : Members) : Members :=
  droppedKeywords.foldl (fun acc k => Assoc.erase k acc) members

/-- Lets an untyped schema keep unknown fields. -/
def markUntyped (members : Members) : Members :=
  if typingKeywords.any (has · members) then members
  else Assoc.insert preserveKeyword (.bool true) members

/-- Of several types keeps the first one other than null. -/
def singleType (members : Members) : Members :=
  match Assoc.get? "type" members with
  | some (.arr types) =>
    Assoc.insert "type" ((types.find? fun t => t != .str "null").getD .null) members
  | _ => members

/-- Drops a format that is not validated. -/
def checkFormat (members : Members) : Members :=
  match Assoc.get? "format" members with
  | some (.str format) =>
    if format ∈ knownFormats then members else Assoc.erase "format" members
  | _ => members

/-- Drops a default that is null. -/
def checkDefault (members : Members) : Members :=
  match Assoc.get? "default" members with
  | some .null => Assoc.erase "default" members
  | _ => members

/-- The integer that the double nearest to a number stands for, within 64 bits; a double with a
fraction stands for none. -/
def integerBound? (n : Number) : Option Signed64 :=
  n.toDouble.truncate?.map (Bounded.clamp (by decide))

/-- Makes a bound an integer, or drops it. -/
def checkBound (keyword : String) (members : Members) : Members :=
  match Assoc.get? keyword members with
  | some (.num n) =>
    match integerBound? n with
    | some i => Assoc.insert keyword (Json.ofInt i.val) members
    | none => Assoc.erase keyword members
  | _ => members

/-- Drops additional properties that are only allowed or forbidden as a whole. -/
def checkAdditional (members : Members) : Members :=
  match Assoc.get? "additionalProperties" members with
  | some (.bool _) => Assoc.erase "additionalProperties" members
  | _ => members

/-- All that is done to the keywords of one node. -/
def tidy (members : Members) : Members :=
  checkAdditional <| checkBound "maximum" <| checkBound "minimum" <| checkDefault <|
    checkFormat <| singleType <| markUntyped <| dropKeywords <| mergeSingle members

/-! ## Nodes inside nodes -/

/-- Changes the value of a keyword, where it is present. -/
def under (keyword : String) (change : Json → Except SchemaFault Json) (members : Members) :
    Except SchemaFault Members :=
  match Assoc.get? keyword members with
  | none => .ok members
  | some v =>
    match change v with
    | .error e => .error e
    | .ok w => .ok (Assoc.insert keyword w members)

/-- Changes the values of members, up to the first fault. -/
def eachMember (change : Json → Except SchemaFault Json) : Members → Except SchemaFault Members
  | [] => .ok []
  | (k, v) :: rest =>
    match change v with
    | .error e => .error e
    | .ok w =>
      match eachMember change rest with
      | .error e => .error e
      | .ok more => .ok ((k, w) :: more)

/-- Changes each property of an object; other values stay. -/
def eachProperty (change : Json → Except SchemaFault Json) : Json → Except SchemaFault Json
  | .obj properties => (eachMember change properties).map .obj
  | other => .ok other

/-- Narrows a schema with at most `fuel` values inside each other. -/
def narrowWithin : (fuel : Nat) → Json → Except SchemaFault Json
  | _, .bool true => .ok (.obj [(preserveKeyword, .bool true)])
  | 0, node => .error (.unsupported node)
  | fuel + 1, .obj members =>
    match refusal? members with
    | some fault => .error fault
    | none => do
      let members ← under "additionalProperties" (narrowWithin fuel) (tidy members)
      let members ← under "properties" (eachProperty (narrowWithin fuel)) members
      let members ← under "items" (narrowWithin fuel) members
      return .obj members
  | _ + 1, node => .error (.unsupported node)

/-- Narrows a schema. -/
def narrow (node : Json) : Except SchemaFault Json := narrowWithin (node.depth + 1) node

/-- The variable schema that a JSON schema is narrowed to. -/
def advertise (node : Json) : Except SchemaFault SchemaProps := do
  let narrowed ← narrow node
  (SchemaProps.shape.ofJson narrowed).mapError .notStructural

end Schema

/-- The variable schema of a shape. -/
def Shape.advertised {α : Type} (shape : Shape α) : Except SchemaFault SchemaProps :=
  Schema.advertise shape.schema

end TopologyHooks
