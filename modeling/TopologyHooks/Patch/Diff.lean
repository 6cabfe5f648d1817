import TopologyHooks.Patch.Operation

/-!
# The difference of two values

`Patch.diff` is a patch that turns one value into another. Objects are compared key by key: first
the keys of the new object in their order, each one new or compared in turn, then the keys that
are gone. Arrays are compared place by place: surplus new items are added at the end, and surplus
old ones removed there. Any other two values that differ are replaced.
-/

set_option autoImplicit false

namespace TopologyHooks

namespace Patch

open Operation

/-- Removes for every key that another object lacks. -/
def diffGone (here : Pointer) (new : List (String × Json)) : List (String × Json) → Patch
  | [] => []
  | (k, _) :: rest =>
    if (Assoc.get? k new).isSome then diffGone here new rest
    else remove (here.push k) :: diffGone here new rest

mutual

/-- The steps that turn `old` into a new value at a path. -/
def diffAt (here : Pointer) (old : Json) : Json → Patch
  | .obj new =>
    match old with
    | .obj members => diffMembers here members new ++ diffGone here new members
    | _ => [replace here (.obj new)]
  | .arr new =>
    match old with
    | .arr items => diffItems here 0 items new
    | _ => [replace here (.arr new)]
  | .null => if old.same .null then [] else [replace here .null]
  | .bool b => if old.same (.bool b) then [] else [replace here (.bool b)]
  | .num n => if old.same (.num n) then [] else [replace here (.num n)]
  | .str s => if old.same (.str s) then [] else [replace here (.str s)]

/-- The steps for the members of a new object. -/
def diffMembers (here : Pointer) (old : List (String × Json)) : List (String × Json) → Patch
  | [] => []
  | (k, x) :: rest =>
    let first := match Assoc.get? k old with
      | some y => diffAt (here.push k) y x
      | none => [add (here.push k) x]
    first ++ diffMembers here old rest

/-- The steps for the items of a new array from a place on. -/
def diffItems (here : Pointer) (index : Nat) : List Json → List Json → Patch
  | old, [] => old.map fun _ => remove (here.push (toString index))
  | [], x :: new => add (here.push (toString index)) x :: diffItems here (index + 1) [] new
  | y :: old, x :: new =>
    diffAt (here.push (toString index)) y x ++ diffItems here (index + 1) old new

end

/-- The patch that turns one value into another. -/
def diff (old new : Json) : Patch := diffAt .root old new

end Patch

end TopologyHooks
