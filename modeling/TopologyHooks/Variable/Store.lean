import TopologyHooks.Error
import TopologyHooks.Message.Variable

/-!
# Variables

* `Variables` — the variables in force, by name; `Variables.ofList` and `Variables.overlay` say
  that later entries of a name win.
* `Variables.get` — the value at a path inside a variable, read as a shape. A value that is
  missing or null, or lies inside such a value, is absent; a path through anything else than an
  object is an error.
* `Variables.set` — writes a value at such a path and creates the objects on the way. The
  variables after a failed attempt keep what was created before the failure.
* `VariableRef` — a variable with a path inside it.
-/

set_option autoImplicit false

namespace TopologyHooks

/-- The variables in force. -/
abbrev Variables := Dictionary Json

namespace Variables

/-- The variables of a list, of which the last one of a name wins. -/
def ofList (list : List ClusterVariable) : Variables :=
  Dictionary.ofList (list.map fun v => (v.name, v.value))

/-- Variables with others over them. -/
def overlay (base : Variables) (top : List ClusterVariable) : Variables :=
  base.insertAll (ofList top).entries

/-- The variables as a list, by name. -/
def toList (vars : Variables) : List ClusterVariable :=
  vars.entries.map fun e => ⟨e.1, e.2, none⟩

/-! ## Looking inside -/

/-- A value that a path cannot be followed through: where it stands, and what is wrong. -/
abbrev Obstacle := List String × Reason

/-- The value at a path inside a value that stands at `here`. -/
def descend (here : List String) : Json → List String → Except Obstacle (Option Json)
  | .null, _ => .ok none
  | j, [] => .ok (some j)
  | .obj members, segment :: rest =>
    match Assoc.get? segment members with
    | none => .ok none
    | some child => descend (here ++ [segment]) child rest
  | j, segment :: _ => .error (here, .cannotDescend segment j)

/-- The value at a path inside a variable. -/
def valueAt (vars : Variables) (name : String) (path : List String) :
    Except Error (Option Json) :=
  match Dictionary.get? vars name with
  | none => .ok none
  | some root =>
    match descend [] root path with
    | .ok found => .ok found
    | .error (here, reason) => .error (.variable name here reason)

/-- The value at a path inside a variable, read as a shape. -/
def get {α : Type} (vars : Variables) (shape : Shape α) (name : String) (path : List String) :
    Except Error (Option α) :=
  match valueAt vars name path with
  | .error e => .error e
  | .ok none => .ok none
  | .ok (some j) =>
    match shape.ofJson j with
    | .ok a => .ok (some a)
    | .error f => .error (.variable name path (.fault f))

/-! ## Writing inside -/

/-- The members of a value that can take members; null counts as an empty object. -/
def members? : Json → Option (List (String × Json))
  | .null => some []
  | .obj members => some members
  | _ => none

/-- Writes a value at a path inside a value that stands at `here`, and gives what was reached
together with what was in the way. -/
def put (value : Json) (here : List String) (segment : String) :
    List String → Json → Json × Option Obstacle
  | [], j =>
    match members? j with
    | some members => (.obj (Assoc.insert segment value members), none)
    | none => (j, some (here, .cannotSet segment))
  | next :: rest, j =>
    match members? j with
    | some members =>
      let child := (Assoc.get? segment members).getD (.obj [])
      let (new, obstacle) := put value (here ++ [segment]) next rest child
      (.obj (Assoc.insert segment new members), obstacle)
    | none => (j, some (here, .cannotSet segment))

/-- Writes a value at a path inside a variable: the variables after the attempt, and the error if
it failed. -/
def set (vars : Variables) (name : String) (path : List String) (value : Json) :
    Variables × Option Error :=
  match path with
  | [] => (vars.insert name value, none)
  | segment :: rest =>
    let root := (Dictionary.get? vars name).getD (.obj [])
    let (new, obstacle) := put value [] segment rest root
    (vars.insert name new, obstacle.map fun o => .variable name o.1 o.2)

end Variables

/-! ## References -/

/-- A variable with a path inside it. -/
structure VariableRef where
  name : String
  path : List String
  deriving DecidableEq

namespace VariableRef

/-- The text of a reference. -/
def text (r : VariableRef) : String := r.path.foldl (fun s segment => s ++ "." ++ segment) r.name

/-- The value that a reference leads to. -/
def get {α : Type} (r : VariableRef) (shape : Shape α) (vars : Variables) :
    Except Error (Option α) :=
  vars.get shape r.name r.path

/-- Writes a value where a reference leads. -/
def set (r : VariableRef) (value : Json) (vars : Variables) : Variables × Option Error :=
  vars.set r.name r.path value

end VariableRef

end TopologyHooks
