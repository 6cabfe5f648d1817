import TopologyHooks.Shape.Write

/-!
# Patch operations

* `Patch.Operation` — one step of a patch of a JSON value.
* `Patch.Operation.toJson` — how a step is written; `op` comes first and `from` before `path`.
* `Patch.Operation.ofJson`, `Patch.ofJson` — reading steps and patches. The member `op`, or the
  first element of an array, tells which step it is, and the rest is read as that step's fields.
-/

set_option autoImplicit false

namespace TopologyHooks

/-- One step of a patch. -/
inductive Patch.Operation
  | add (path : Pointer) (value : Json)
  | remove (path : Pointer)
  | replace (path : Pointer) (value : Json)
  | move (source path : Pointer)
  | copy (source path : Pointer)
  | test (path : Pointer) (value : Json)
  deriving DecidableEq

/-- The steps of a patch, in order. -/
abbrev Patch := List Patch.Operation

namespace Patch

namespace Operation

/-- The place that a step changes or looks at. -/
def path : Operation → Pointer
  | add path _ => path
  | remove path => path
  | replace path _ => path
  | move _ path => path
  | copy _ path => path
  | test path _ => path

/-- The word for a step. -/
def word : Operation → String
  | add _ _ => "add"
  | remove _ => "remove"
  | replace _ _ => "replace"
  | move _ _ => "move"
  | copy _ _ => "copy"
  | test _ _ => "test"

/-- The members of a step, in the order in which they are written. -/
def members (o : Operation) : List (String × Json) :=
  let path := ("path", Json.str o.path.render)
  let rest := match o with
    | add _ value => [path, ("value", value)]
    | remove _ => [path]
    | replace _ value => [path, ("value", value)]
    | move source _ => [("from", .str source.render), path]
    | copy source _ => [("from", .str source.render), path]
    | test _ value => [path, ("value", value)]
  ("op", .str o.word) :: rest

/-- How a step is written. -/
def toJson (o : Operation) : Json := .obj o.members

/-! ## Reading -/

/-- The fields of a step that carries a value. -/
def valued (title : String) (make : Pointer → Json → Operation) : Shape Operation :=
  .struct title (.required "path" .pointer <| .required "value" .json .done)
    (fun (path, value, _) => make path value)
    (fun o => (o.path, .null, ()))

/-- The fields of a step that has a source. -/
def sourced (title : String) (make : Pointer → Pointer → Operation) : Shape Operation :=
  .struct title (.required "from" .pointer <| .required "path" .pointer .done)
    (fun (source, path, _) => make source path)
    (fun o => (o.path, o.path, ()))

/-- The fields of a step that has a path alone. -/
def bare (title : String) (make : Pointer → Operation) : Shape Operation :=
  .struct title (.required "path" .pointer .done) (fun (path, _) => make path)
    (fun o => (o.path, ()))

/-- The kinds of steps, with the fields of each. -/
def kinds : List (String × Shape Operation) :=
  [("add", valued "AddOperation" add), ("remove", bare "RemoveOperation" remove),
    ("replace", valued "ReplaceOperation" replace), ("move", sourced "MoveOperation" move),
    ("copy", sourced "CopyOperation" copy), ("test", valued "TestOperation" test)]

/-- Reads the rest of a step whose word is known. -/
def ofRest (word : String) (rest : Json) : List (String × Shape Operation) → Except Fault Operation
  | [] => .error (.unknownVariant word ["add", "remove", "replace", "move", "copy", "test"])
  | (w, shape) :: more =>
    if w = word then shape.read Source.value.buffered rest else ofRest word rest more

/-- Reads a step. -/
def ofJson : Json → Except Fault Operation
  | .obj members =>
    match Assoc.get? "op" members with
    | none => .error (.missingField "op")
    | some (.str word) => ofRest word (.obj (Assoc.erase "op" members)) kinds
    | some other => .error (.invalidType other.found "variant identifier")
  | .arr [] => .error (.missingField "op")
  | .arr (.str word :: rest) => ofRest word (.arr rest) kinds
  | .arr (other :: _) => .error (.invalidType other.found "variant identifier")
  | other => .error (.invalidType other.found "internally tagged enum PatchOperation")

end Operation

/-! ## Whole patches -/

/-- How a patch is written. -/
def toJson (patch : Patch) : Json := .arr (patch.map Operation.toJson)

/-- Reads a patch. -/
def ofJson : Json → Except Fault Patch
  | .arr items => Reading.readItems Operation.ofJson none items
  | other => .error (.invalidType other.found "a sequence")

end Patch

end TopologyHooks
