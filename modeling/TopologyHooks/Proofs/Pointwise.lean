import Mathlib.Data.List.Forall2

/-!
# Items that are related one by one

What follows for the items of a list that are related, one by one, to those of another: each has a
partner (`exists_mem_of_forall₂`), and they can be told apart by their partners
(`pairwise_of_forall₂`). The results of a function that may fail are such partners
(`mapM_eq_ok_iff`); what one result comes from is said for each way to go on with it
(`map_eq_ok_iff`, `bind_eq_ok_iff`). Values that may be missing are related if both are there or
neither is (`rel_bind`, `rel_comp`).
-/

set_option autoImplicit false

namespace TopologyHooks

variable {α β : Type*} {R : α → β → Prop}

/-- Each item of the first list has a partner in the second. -/
theorem exists_mem_of_forall₂ {as : List α} {bs : List β} (h : List.Forall₂ R as bs) :
    ∀ a ∈ as, ∃ b ∈ bs, R a b := by
  induction h with
  | nil => simp
  | cons hab _ ih =>
    refine List.forall_mem_cons.2 ⟨⟨_, List.mem_cons_self, hab⟩, ?_⟩
    intro a ha
    obtain ⟨b, hb, hr⟩ := ih a ha
    exact ⟨b, List.mem_cons_of_mem _ hb, hr⟩

/-- Items that have different partners can be told apart by them. -/
theorem pairwise_of_forall₂ {as : List α} {bs : List β} (h : List.Forall₂ R as bs)
    (hnd : bs.Nodup) : as.Pairwise fun a a' => ∃ b b', b ≠ b' ∧ R a b ∧ R a' b' := by
  induction h with
  | nil => exact .nil
  | @cons a b as bs hab hrest ih =>
    obtain ⟨hnot, hnd⟩ := List.nodup_cons.1 hnd
    refine .cons (fun a' ha' => ?_) (ih hnd)
    obtain ⟨b', hb', hr⟩ := exists_mem_of_forall₂ hrest a' ha'
    have hne : b ≠ b' := by
      rintro rfl
      exact hnot hb'
    exact ⟨b, b', hne, hab, hr⟩

/-- Items that are related twice are related in both ways at once. -/
theorem forall₂_both {S : α → β → Prop} {as : List α} {bs : List β} (h : List.Forall₂ R as bs)
    (h' : List.Forall₂ S as bs) : List.Forall₂ (fun a b => R a b ∧ S a b) as bs :=
  h.mp (fun _ _ hr hs => ⟨hr, hs⟩) h'

/-- A list of partners, if every item has one. -/
theorem exists_forall₂ : ∀ {as : List α}, (∀ a ∈ as, ∃ b, R a b) → ∃ bs, List.Forall₂ R as bs
  | [], _ => ⟨[], .nil⟩
  | a :: as, h => by
    obtain ⟨b, hb⟩ := h a List.mem_cons_self
    obtain ⟨bs, hbs⟩ := exists_forall₂ fun a ha => h a (List.mem_cons_of_mem _ ha)
    exact ⟨b :: bs, .cons hb hbs⟩

/-! ## Results of functions that may fail -/

section

variable {α β ε ε' : Type} {r : Except ε α}

/-- A changed result comes from a result. -/
theorem map_eq_ok_iff {f : α → β} {b : β} : r.map f = .ok b ↔ ∃ a, r = .ok a ∧ f a = b := by
  cases r <;> simp [Except.map]

/-- Changing results keeps errors. -/
theorem map_eq_error_iff {f : α → β} {e : ε} : r.map f = .error e ↔ r = .error e := by
  cases r <;> simp [Except.map]

/-- Changing errors keeps results. -/
theorem mapError_eq_ok_iff {f : ε → ε'} {a : α} : r.mapError f = .ok a ↔ r = .ok a := by
  cases r <;> simp [Except.mapError]

/-- A changed error comes from an error. -/
theorem mapError_eq_error_iff {f : ε → ε'} {e : ε'} :
    r.mapError f = .error e ↔ ∃ x, r = .error x ∧ f x = e := by
  cases r <;> simp [Except.mapError]

/-- A result of two steps comes from a result of the first. -/
theorem bind_eq_ok_iff {f : α → Except ε β} {b : β} :
    r >>= f = .ok b ↔ ∃ a, r = .ok a ∧ f a = .ok b := by
  cases r <;> simp [bind, Except.bind]

end

/-! ## Results one after the other -/

/-- The results for a list are those for its items, one by one. -/
theorem mapM_eq_ok_iff {α β ε : Type} {f : α → Except ε β} : ∀ {as : List α} {bs : List β},
    as.mapM f = .ok bs ↔ List.Forall₂ (fun a b => f a = .ok b) as bs
  | [], bs => by
    rw [List.mapM_nil]
    cases bs <;> simp [pure, Except.pure]
  | a :: as, bs => by
    rw [List.mapM_cons, List.forall₂_cons_left_iff]
    simp only [← mapM_eq_ok_iff]
    cases ha : f a with
    | error e => simp [bind, Except.bind]
    | ok b =>
      generalize as.mapM f = r
      cases r <;> simp [bind, Except.bind, pure, Except.pure, eq_comm]

/-- If the results of a list fail, it is for the first of them that fails. -/
theorem exists_of_mapM_eq_error {α β ε : Type} {f : α → Except ε β} :
    ∀ {as : List α} {e : ε}, as.mapM f = .error e →
    ∃ before a after, as = before ++ a :: after ∧ (∀ x ∈ before, ∃ b, f x = .ok b) ∧
      f a = .error e
  | [], e, h => by
    rw [List.mapM_nil] at h
    cases h
  | a :: as, e, h => by
    rw [List.mapM_cons] at h
    cases ha : f a with
    | error e' =>
      rw [ha] at h
      obtain rfl := Except.error.inj h
      exact ⟨[], a, as, rfl, by simp, ha⟩
    | ok b =>
      have hrest : as.mapM f = .error e := by
        rw [ha] at h
        generalize as.mapM f = r at h ⊢
        cases r with
        | error e' => exact h
        | ok bs => cases h
      obtain ⟨before, x, after, rfl, hbefore, hx⟩ := exists_of_mapM_eq_error hrest
      exact ⟨a :: before, x, after, rfl, List.forall_mem_cons.2 ⟨⟨b, ha⟩, hbefore⟩, hx⟩

/-! ## Values that may be missing -/

section

variable {γ δ : Type*} {a : Option α} {b : Option β}

/-- A weaker relation relates what a stronger one does. -/
theorem rel_imp {S : α → β → Prop} (h : Option.Rel R a b)
    (himp : ∀ x y, a = some x → R x y → S x y) : Option.Rel S a b := by
  cases h with
  | some hxy => exact .some (himp _ _ rfl hxy)
  | none => exact .none

/-- Values that may be missing stay related when both sides go on in related ways. -/
theorem rel_bind {S : γ → δ → Prop} {f : α → Option γ} {g : β → Option δ} (h : Option.Rel R a b)
    (hbind : ∀ x y, a = some x → R x y → Option.Rel S (f x) (g y)) :
    Option.Rel S (a.bind f) (b.bind g) := by
  cases h with
  | some hxy => exact hbind _ _ rfl hxy
  | none => exact .none

/-- Values that are related to a third one in between are related through it. -/
theorem rel_comp {S : β → γ → Prop} {c : Option γ} (h : Option.Rel R a b) (h' : Option.Rel S b c) :
    Option.Rel (fun x z => ∃ y, R x y ∧ S y z) a c := by
  cases h with
  | some hxy =>
    cases h' with
    | some hyz => exact .some ⟨_, hxy, hyz⟩
  | none =>
    cases h' with
    | none => exact .none

/-- Of two related values one is there exactly if the other one is. -/
theorem isSome_iff_of_rel (h : Option.Rel R a b) : a.isSome ↔ b.isSome := by
  cases h with
  | some _ => exact Iff.rfl
  | none => exact Iff.rfl

/-- What a value is related to is there too. -/
theorem exists_of_rel_some {x : α} (h : Option.Rel R (some x) b) : ∃ y, b = some y ∧ R x y := by
  cases h with
  | some hxy => exact ⟨_, rfl, hxy⟩

end

end TopologyHooks
