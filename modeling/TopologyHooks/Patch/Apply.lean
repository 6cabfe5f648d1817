import TopologyHooks.Patch.Operation

/-!
# Applying patches

* `Json.addAt?`, `Json.removeAt?`, `Json.replaceAt?` — a value with one place changed, if there is
  such a place. In an array adding moves later items up and removing moves them down; the token
  `-` stands for the place after the last item, and only adding reaches it.
* `Patch.apply` — a value after all steps of a patch, or the first step that fails. A patch that
  fails changes nothing.
-/

set_option autoImplicit false

namespace TopologyHooks

namespace Json

/-- Changes the value one step inside. -/
def within? (token : String) (change : Json → Option Json) : Json → Option Json
  | .obj members =>
    match Assoc.get? token members with
    | none => none
    | some child => (change child).map fun new => .obj (Assoc.insert token new members)
  | .arr items =>
    match Pointer.index? token with
    | none => none
    | some i =>
      match items[i]? with
      | none => none
      | some child => (change child).map fun new => .arr (items.set i new)
  | _ => none

/-- Puts a value where a token points. -/
def addChild? (value : Json) (token : String) : Json → Option Json
  | .obj members => some (.obj (Assoc.insert token value members))
  | .arr items =>
    if token = "-" then some (.arr (items ++ [value]))
    else
      match Pointer.index? token with
      | none => none
      | some i => if i ≤ items.length then some (.arr (items.insertIdx i value)) else none
  | _ => none

/-- Takes the value away that a token points at. -/
def removeChild? (token : String) : Json → Option Json
  | .obj members =>
    if (Assoc.get? token members).isSome then some (.obj (Assoc.erase token members)) else none
  | .arr items =>
    match Pointer.index? token with
    | none => none
    | some i => if i < items.length then some (.arr (items.eraseIdx i)) else none
  | _ => none

/-- Puts a value at a path. -/
def addAt? (value : Json) : List String → Json → Option Json
  | [], _ => some value
  | [t], j => addChild? value t j
  | t :: u :: ts, j => within? t (addAt? value (u :: ts)) j

/-- Takes the value at a path away. -/
def removeAt? : List String → Json → Option Json
  | [], _ => none
  | [t], j => removeChild? t j
  | t :: u :: ts, j => within? t (removeAt? (u :: ts)) j

/-- Puts a value in the place of the one at a path. -/
def replaceAt? (value : Json) : List String → Json → Option Json
  | [], _ => some value
  | t :: ts, j => within? t (replaceAt? value ts) j

end Json

namespace Patch

/-- Why a step cannot be applied. -/
inductive Reason
  | invalidPath
  | invalidSource
  | insideItself
  | testFailed
  deriving DecidableEq

/-- The text of a reason. -/
def Reason.message : Reason → String
  | .invalidPath => "path is invalid"
  | .invalidSource => "\"from\" path is invalid"
  | .insideItself => "cannot move the value inside itself"
  | .testFailed => "value did not match"

/-- A step of a patch that failed: its number, its path and the reason. -/
structure Failure where
  index : Nat
  path : Pointer
  reason : Reason
  deriving DecidableEq

/-- The text of a failure. -/
def Failure.message (f : Failure) : String :=
  "operation '/" ++ toString f.index ++ "' failed at path '" ++ f.path.render ++ "': "
    ++ f.reason.message

/-- A result, or a reason when there is none. -/
def orElse {α : Type} (reason : Reason) : Option α → Except Reason α
  | some a => .ok a
  | none => .error reason

/-- Whether one path leads strictly inside another. -/
def isInside (path outer : Pointer) : Bool :=
  outer.tokens.isPrefixOf path.tokens && path.tokens.length != outer.tokens.length

/-- A value after one step. -/
def Operation.apply (doc : Json) : Operation → Except Reason Json
  | .add path value => orElse .invalidPath (Json.addAt? value path.tokens doc)
  | .remove path => orElse .invalidPath (Json.removeAt? path.tokens doc)
  | .replace path value => orElse .invalidPath (Json.replaceAt? value path.tokens doc)
  | .move source path =>
    if isInside path source then .error .insideItself
    else
      match doc.at? source.tokens, Json.removeAt? source.tokens doc with
      | some value, some rest => orElse .invalidPath (Json.addAt? value path.tokens rest)
      | _, _ => .error .invalidSource
  | .copy source path =>
    match doc.at? source.tokens with
    | some value => orElse .invalidPath (Json.addAt? value path.tokens doc)
    | none => .error .invalidSource
  | .test path value =>
    match doc.at? path.tokens with
    | some found => if found.same value then .ok doc else .error .testFailed
    | none => .error .invalidPath

/-- A value after all steps, of which the first one has a number. -/
def applyFrom (index : Nat) (doc : Json) : Patch → Except Failure Json
  | [] => .ok doc
  | o :: rest =>
    match o.apply doc with
    | .ok doc => applyFrom (index + 1) doc rest
    | .error reason => .error ⟨index, o.path, reason⟩

/-- A value after all steps of a patch. -/
def apply (patch : Patch) (doc : Json) : Except Failure Json := applyFrom 0 doc patch

end Patch

end TopologyHooks
