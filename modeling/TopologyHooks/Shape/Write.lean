import TopologyHooks.Shape.Read

/-!
# Writing values of a shape

`Shape.toJson` is the JSON value of a value; the members of an object are sorted by key.
-/

set_option autoImplicit false

namespace TopologyHooks

mutual

/-- The JSON value of a value. -/
def Shape.toJson : {α : Type} → Shape α → α → Json
  | _, .text, s => .str s
  | _, .flag, b => .bool b
  | _, .integer _ _ _, n => Json.ofInt n.val
  | _, .real, d => .num (.double d)
  | _, .json, j => j
  | _, .spelled _ _ render, a => .str (render a)
  | _, .list item, xs => .arr (xs.map fun x => Shape.toJson item x)
  | _, .dictionary item, d => .obj (d.entries.map fun e => (e.1, Shape.toJson item e.2))
  | _, .nullable inner, o =>
    match o with
    | none => .null
    | some a => Shape.toJson inner a
  | _, .choice _ name, a => .str (name a)
  | _, .record _ fields _ outOf, a => Json.object (Fields.members fields (outOf a))
  | _, .flattened _ own base _ outOf, a =>
    Json.object (Fields.members own (outOf a).1 ++ Fields.members base (outOf a).2)
  | _, .mapped inner _ outOf, a => Shape.toJson inner (outOf a)
  | _, .deferred level height, a => Shape.toJson (level (height a)) a
  | _, .described _ inner, a => Shape.toJson inner a

/-- The members that are written for fields. -/
def Fields.members : {β : Type} → Fields β → β → List (String × Json)
  | _, .done, _ => []
  | _, .field key presence shape rest, b =>
    if presence.skips b.1 then Fields.members rest b.2
    else (key, Shape.toJson shape b.1) :: Fields.members rest b.2

end

end TopologyHooks
