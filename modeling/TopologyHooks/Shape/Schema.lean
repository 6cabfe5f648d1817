import TopologyHooks.Shape.Write

/-!
# The schema of a shape

`Shape.schema` is the JSON schema that describes the values of a shape. A shape that repeats
inside itself has no such schema; a reference stands for it.
-/

set_option autoImplicit false

namespace TopologyHooks

namespace Shape

/-- A schema with one more keyword. -/
def withKeyword (key : String) (value : Json) : Json → Json
  | .obj members => .obj (Assoc.insert key value members)
  | .bool true => .obj [(key, value)]
  | other => other

/-- A schema that names a type. -/
def typeSchema (name : String) : Json := .obj [("type", .str name)]

/-- The schema of integers between bounds. -/
def integerSchema (low : Int) (name : String) : Json :=
  let format : Json := .str (match name with
    | "i64" => "int64"
    | "i32" => "int32"
    | "u32" => "uint32"
    | _ => "uint16")
  let bound := if low = 0 then [("minimum", Json.num (.double Double.zero))] else []
  Json.object ([("type", .str "integer"), ("format", format)] ++ bound)

end Shape

/-- The keys of the fields that must be there. -/
def Fields.requiredKeys : {β : Type} → Fields β → List String
  | _, .done => []
  | _, .field key presence _ rest =>
    if presence.isRequired then key :: rest.requiredKeys else rest.requiredKeys

/-- The schema of an object with properties, of which some must be there. -/
def Shape.objectSchema (properties : List (String × Json)) (needed : List String) : Json :=
  let sorted := needed.mergeSort fun a b => decide (a ≤ b)
  let properties := Json.object properties
  Json.object ([("type", Json.str "object"), ("properties", properties)]
    ++ (if sorted.isEmpty then [] else [("required", Json.arr (sorted.map Json.str))]))

mutual

/-- The JSON schema of a shape. -/
def Shape.schema : {α : Type} → Shape α → Json
  | _, .text => Shape.typeSchema "string"
  | _, .flag => Shape.typeSchema "boolean"
  | _, .integer low _ name => Shape.integerSchema low name
  | _, .real => .obj [("format", .str "double"), ("type", .str "number")]
  | _, .json => .bool true
  | _, .spelled _ _ _ => Shape.typeSchema "string"
  | _, .list item => .obj [("items", Shape.schema item), ("type", .str "array")]
  | _, .dictionary item =>
    .obj [("additionalProperties", Shape.schema item), ("type", .str "object")]
  | _, .nullable inner => Shape.schema inner
  | _, .choice values _ =>
    .obj [("enum", .arr (values.map fun v => .str v.1)), ("type", .str "string")]
  | _, .record _ fields _ _ => Shape.objectSchema (Fields.properties fields) fields.requiredKeys
  | _, .flattened _ own base _ _ =>
    Shape.objectSchema (Fields.properties own ++ Fields.properties base)
      (own.requiredKeys ++ base.requiredKeys)
  | _, .mapped inner _ _ => Shape.schema inner
  | _, .deferred _ _ => .obj [("$ref", .str "#")]
  | _, .described doc inner => Shape.withKeyword "description" (.str doc) (Shape.schema inner)

/-- The schemas of the fields. -/
def Fields.properties : {β : Type} → Fields β → List (String × Json)
  | _, .done => []
  | _, .field key _ shape rest => (key, Shape.schema shape) :: Fields.properties rest

end

end TopologyHooks
