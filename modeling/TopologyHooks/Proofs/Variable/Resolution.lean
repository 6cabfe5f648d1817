import TopologyHooks.Shape.Read
import TopologyHooks.Variable.Store

/-!
# What paths inside variables lead to

* `Json.memberAt?` — the member at a path of members.
* `Json.Diverge` — whether two paths part, so that neither leads on from the other.
* `Variables.descend_eq_some_iff`, `Variables.valueAt_eq_some_iff`, `Variables.get_eq_some_iff` — a
  path leads to a value exactly if it goes through members of objects and the value at its end is
  not null.
-/

set_option autoImplicit false

namespace TopologyHooks

/-- The member at a path of members; the empty path leads to the value itself. -/
def Json.memberAt? (j : Json) : List String → Option Json
  | [] => some j
  | key :: path => (j.member? key).bind (memberAt? · path)

/-- A path of members is a path. -/
theorem Json.at?_of_memberAt? {x : Json} : ∀ {path : List String} {j : Json},
    j.memberAt? path = some x → j.at? path = some x
  | [], _, h => h
  | key :: path, j, h => by
    obtain ⟨child, hchild, hrest⟩ := Option.bind_eq_some_iff.1 h
    show (j.child? key).bind (at? · path) = some x
    refine Option.bind_eq_some_iff.2 ⟨child, ?_, at?_of_memberAt? hrest⟩
    cases j with
    | obj ms => exact hchild
    | _ => cases hchild

/-- A path without indices is a path of members. -/
theorem Json.memberAt?_of_at? {x : Json} : ∀ {path : List String} {j : Json},
    (∀ key ∈ path, Pointer.index? key = none) → j.at? path = some x → j.memberAt? path = some x
  | [], _, _, h => h
  | key :: path, j, hkeys, h => by
    obtain ⟨child, hchild, hrest⟩ := Option.bind_eq_some_iff.1 h
    refine Option.bind_eq_some_iff.2 ⟨child, ?_, memberAt?_of_at? ?_ hrest⟩
    · cases j with
      | obj ms => exact hchild
      | arr items =>
        rw [child?, hkeys key List.mem_cons_self] at hchild
        cases hchild
      | _ => cases hchild
    · intro k hk
      exact hkeys k (List.mem_cons_of_mem key hk)

/-- Two paths part: neither leads on from the other. -/
def Json.Diverge (p q : List String) : Prop := ¬ p <+: q ∧ ¬ q <+: p

instance (p q : List String) : Decidable (Json.Diverge p q) := inferInstanceAs (Decidable (_ ∧ _))

/-- No path parts from the empty one. -/
theorem Json.not_diverge_nil_left {q : List String} : ¬ Json.Diverge [] q :=
  fun h => h.1 (List.nil_prefix)

/-- The empty path parts from none. -/
theorem Json.not_diverge_nil_right {p : List String} : ¬ Json.Diverge p [] :=
  fun h => h.2 (List.nil_prefix)

/-- Paths part at their first key or behind it. -/
theorem Json.diverge_cons {key key' : String} {p q : List String} :
    Json.Diverge (key :: p) (key' :: q) ↔ key ≠ key' ∨ Json.Diverge p q := by
  unfold Json.Diverge
  rw [List.cons_prefix_cons, List.cons_prefix_cons]
  by_cases hkey : key = key'
  · simp [hkey]
  · simp [hkey, Ne.symm hkey]

/-- Behind the same key, paths part where the rests of them do. -/
theorem Json.diverge_cons_self {key : String} {p q : List String} :
    Json.Diverge (key :: p) (key :: q) ↔ Json.Diverge p q :=
  Json.diverge_cons.trans (or_iff_right fun hne => hne rfl)

variable {vars : Variables} {name : String} {path : List String} {x : Json}

namespace Variables

/-- Descending finds the value at the path, unless that is null. -/
theorem descend_eq_some_iff : ∀ {path : List String} (here : List String) {j : Json},
    descend here j path = .ok (some x) ↔ j.memberAt? path = some x ∧ x ≠ .null
  | [], here, j => by
    rw [Json.memberAt?, Option.some.injEq]
    by_cases hj : j = .null
    · subst hj
      simp [descend, eq_comm]
    · have hfound : descend here j [] = .ok (some j) := by
        cases j <;> first | rfl | exact absurd rfl hj
      rw [hfound, Except.ok.injEq, Option.some.injEq]
      exact ⟨fun h => ⟨h, h ▸ hj⟩, And.left⟩
  | key :: path, here, j => by
    rw [Json.memberAt?]
    cases j with
    | obj members =>
      rw [descend, Json.member?]
      cases hchild : Assoc.get? key members with
      | none => simp
      | some child => exact descend_eq_some_iff _
    | _ => simp [descend, Json.member?]

/-- A value is looked up at a path exactly if it stands there in the value of the variable, and is
no null. -/
theorem valueAt_eq_some_iff : vars.valueAt name path = .ok (some x) ↔
    ∃ root, vars.get? name = some root ∧ root.memberAt? path = some x ∧ x ≠ .null := by
  unfold valueAt
  cases hroot : vars.get? name with
  | none => simp
  | some root =>
    simp only [Option.some.injEq, exists_eq_left']
    rw [← descend_eq_some_iff []]
    cases descend [] root path with
    | ok found => simp
    | error obstacle => simp

/-- A value is read at a path exactly if it is read from what is looked up there. -/
theorem get_eq_some_iff {α : Type} {shape : Shape α} {a : α} :
    vars.get shape name path = .ok (some a) ↔
      ∃ x, vars.valueAt name path = .ok (some x) ∧ shape.ofJson x = .ok a := by
  unfold get
  rcases vars.valueAt name path with e | _ | x
  · simp
  · simp
  · cases hread : shape.ofJson x with
    | ok b => simp [hread]
    | error f => simp [hread]

/-- Nothing is read at a path exactly if nothing is looked up there. -/
theorem get_eq_none_iff {α : Type} {shape : Shape α} :
    vars.get shape name path = .ok none ↔ vars.valueAt name path = .ok none := by
  unfold get
  rcases vars.valueAt name path with e | _ | x
  · simp
  · simp
  · cases hread : shape.ofJson x with
    | ok a => simp [hread]
    | error f => simp [hread]

end Variables

/-- A text is read from itself alone. -/
theorem Shape.ofJson_text_eq_ok_iff {text : String} :
    Shape.text.ofJson x = .ok text ↔ x = .str text := by
  unfold Shape.ofJson Shape.read
  cases x <;> simp [Reading.readString, Source.value, Source.viewValue]

end TopologyHooks
