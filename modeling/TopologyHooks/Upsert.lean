/-!
# Changing lists in place

* `upsert` — replaces the first item with a key, or appends the new item.
* `appendNew`, `appendAllNew` — append items that are not there yet.
-/

set_option autoImplicit false

namespace TopologyHooks

/-- Replaces the first item that has the key of a new one, or appends the new one. -/
def upsert {α κ : Type} [DecidableEq κ] (key : α → κ) (new : α) : List α → List α
  | [] => [new]
  | x :: xs => if key x = key new then new :: xs else x :: upsert key new xs

/-- Appends an item unless it is there. -/
def appendNew {α : Type} [DecidableEq α] (xs : List α) (x : α) : List α :=
  if x ∈ xs then xs else xs ++ [x]

/-- Appends those items that are not there, one after the other. -/
def appendAllNew {α : Type} [DecidableEq α] (xs new : List α) : List α :=
  new.foldl appendNew xs

end TopologyHooks
