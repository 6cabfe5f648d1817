import TopologyHooks.Proofs.Patch.Replay

/-!
# What a difference says

* `Patch.diff_eq_nil_iff` — the difference of two values is empty exactly if they are the same.
* `Patch.exists_leadsTo` — the difference can be run on the old value. What comes out is the new
  value, if none of its doubles differs from the old one in the sign of a zero alone
  (`Patch.eq_of_run?_diff`).
-/

set_option autoImplicit false

namespace TopologyHooks

namespace Patch

open Operation

/-! ## Empty differences -/

/-- A patch that is moved to another place has no steps exactly if it had none. -/
theorem map_shift_eq_nil {p : Patch} {outer : List String} : p.map (shift outer) = [] ↔ p = [] :=
  List.map_eq_nil_iff

/-- There are no steps between two lists exactly if there are as many items and none between those
of the same place. -/
theorem diffItems_eq_nil_iff (here : List String) :
    ∀ (ys xs : List Json) (index : Nat),
      diffItems ⟨here⟩ index xs ys = [] ↔ List.Forall₂ (fun x y => diff x y = []) xs ys
  | [], xs, index => by cases xs <;> simp [diffItems]
  | y :: ys, [], index => by simp [diffItems]
  | y :: ys, x :: xs, index => by
    have hpush : Pointer.push ⟨here⟩ (toString index) = ⟨here ++ [toString index]⟩ := rfl
    rw [diffItems, List.append_eq_nil_iff, hpush, diffAt_eq_map_shift, map_shift_eq_nil,
      diffItems_eq_nil_iff here ys xs, List.forall₂_cons]

/-- There are no steps between two arrays exactly if there are as many items and none between those
of the same place. -/
theorem diff_arr_eq_nil_iff {xs ys : List Json} :
    diff (.arr xs) (.arr ys) = [] ↔ List.Forall₂ (fun x y => diff x y = []) xs ys :=
  diffItems_eq_nil_iff [] ys xs 0

mutual

/-- The difference of two ordered values is empty exactly if they are the same. -/
theorem diff_eq_nil_iff : ∀ (new : Json) {old : Json}, old.Ordered → new.Ordered →
    (diff old new = [] ↔ old.same new = true)
  | .null, old, _, _ => by simp [diff, diffAt]
  | .bool _, old, _, _ => by simp [diff, diffAt]
  | .num _, old, _, _ => by simp [diff, diffAt]
  | .str _, old, _, _ => by simp [diff, diffAt]
  | .arr ys, old, ho, hn => by
    cases old with
    | arr xs =>
      rw [diff_arr_eq_nil_iff, Json.same, Json.sameItems_iff]
      exact forall₂_diff_eq_nil_iff ys (Json.ordered_arr.1 ho) (Json.ordered_arr.1 hn)
    | _ => simp [diff, diffAt, Json.same]
  | .obj ys, old, ho, hn => by
    cases old with
    | obj xs =>
      rw [Json.ordered_obj] at ho
      have hn' := hn
      rw [Json.ordered_obj] at hn'
      -- the same keys with the same values, compared key by key
      have key (k : String) :=
        rel_diff_eq_nil_iff ys hn.2 k (fun x hx => ho.2 k x hx)
      rw [diff_obj_eq_nil_iff ho.1 hn'.1, Json.same]
      constructor
      · exact fun h => Json.sameMembers_of_rel_get? ho.1 hn'.1 fun k => (key k).1 (h k)
      · exact fun h k => (key k).2 (Json.rel_get?_of_sameMembers h k)
    | _ => simp [diff, diffAt, Json.same]

/-- There are no steps between any two ordered items of the same place exactly if these are the
same. -/
theorem forall₂_diff_eq_nil_iff : ∀ (ys : List Json) {xs : List Json},
    (∀ x ∈ xs, Json.Ordered x) → (∀ y ∈ ys, Json.Ordered y) →
    (List.Forall₂ (fun x y => diff x y = []) xs ys ↔
      List.Forall₂ (fun x y => Json.same x y = true) xs ys)
  | [], xs, _, _ => by cases xs <;> simp
  | y :: ys, xs, hx, hy => by
    rcases xs with _ | ⟨x, xs⟩
    · simp
    · rw [List.forall₂_cons, List.forall₂_cons,
        diff_eq_nil_iff y (hx x List.mem_cons_self) (hy y List.mem_cons_self),
        forall₂_diff_eq_nil_iff ys (fun x h => hx x (List.mem_cons_of_mem _ h))
          fun y h => hy y (List.mem_cons_of_mem _ h)]

/-- There are no steps between two ordered members of the same key exactly if these are the same. -/
theorem rel_diff_eq_nil_iff : ∀ (ys : List (String × Json)), Json.OrderedMembers ys →
    ∀ (k : String) {x : Option Json}, (∀ a, x = some a → a.Ordered) →
    (Option.Rel (fun x y => diff x y = []) x (Assoc.get? k ys) ↔
      Option.Rel (fun x y => Json.same x y = true) x (Assoc.get? k ys))
  | [], _, k, x, _ => by cases x <;> simp [Assoc.get?]
  | (l, y) :: ys, hy, k, x, hx => by
    by_cases hk : l = k
    · rw [Assoc.get?, if_pos hk]
      cases x with
      | none => simp
      | some a => simpa using diff_eq_nil_iff y (hx a rfl) hy.1
    · rw [Assoc.get?, if_neg hk]
      exact rel_diff_eq_nil_iff ys hy.2 k hx

end

/-- There are no steps from an ordered value to itself. -/
theorem diff_self {j : Json} (h : j.Ordered) : diff j j = [] :=
  (diff_eq_nil_iff j h h).2 (Json.same_refl j)

/-! ## Replacing whole values -/

/-- A step that replaces the root puts its value in place of anything. -/
theorem run?_replace_root (value doc : Json) : run? [replace .root value] doc = some value := by
  simp [run?, step?_replace, Pointer.root, Json.replaceAt?]

/-- Whether two values are both arrays or both objects. -/
def bothNested : Json → Json → Bool
  | .arr _, .arr _ => true
  | .obj _, .obj _ => true
  | _, _ => false

/-- Unless both are arrays or both are objects, a value is replaced as a whole. -/
theorem diff_of_not_bothNested {old new : Json} (h : bothNested old new = false) :
    diff old new = if old.same new then [] else [replace .root new] := by
  cases old <;> cases new <;>
    simp_all [bothNested, diff, diffAt, Json.same]

/-- Of values that are not both nested, the same ones with the same signs of zeros are equal. -/
theorem eq_of_same_of_not_bothNested {old new : Json} (h : bothNested old new = false)
    (hs : old.same new = true) (hz : old.SignsKept new) : old = new := by
  cases old <;> cases new <;> simp only [bothNested, Json.same, Bool.false_eq_true,
    Bool.true_eq_false, beq_iff_eq] at h hs <;> try (subst hs; rfl)
  · rfl
  case num.num m n =>
    cases m <;> cases n <;> simp only [Number.same, Bool.false_eq_true, decide_eq_true_eq] at hs
    · subst hs
      rfl
    · rw [hz [] _ _ rfl rfl hs]

/-! ## Replaying on the old value -/

/-- A value that `old` becomes when its difference from `new` is run on it; but for signs of zeros
it is `new`. -/
def LeadsTo (old new r : Json) : Prop :=
  run? (diff old new) old = some r ∧ (old.SignsKept new → r = new)

/-- Between values that are not both nested, the difference leads somewhere. -/
theorem exists_leadsTo_of_not_bothNested {old new : Json} (h : bothNested old new = false) :
    ∃ r, LeadsTo old new r := by
  by_cases hs : old.same new = true
  · refine ⟨old, ?_, fun hz => eq_of_same_of_not_bothNested h hs hz⟩
    rw [diff_of_not_bothNested h, if_pos hs, run?_nil]
  · refine ⟨new, ?_, fun _ => rfl⟩
    rw [diff_of_not_bothNested h, if_neg hs, run?_replace_root]

mutual

/-- A difference can be run on the old value. -/
theorem exists_leadsTo : ∀ (new : Json) {old : Json}, old.Ordered → new.Ordered →
    ∃ r, LeadsTo old new r
  | .null, old, _, _ => exists_leadsTo_of_not_bothNested (by cases old <;> rfl)
  | .bool _, old, _, _ => exists_leadsTo_of_not_bothNested (by cases old <;> rfl)
  | .num _, old, _, _ => exists_leadsTo_of_not_bothNested (by cases old <;> rfl)
  | .str _, old, _, _ => exists_leadsTo_of_not_bothNested (by cases old <;> rfl)
  | .arr ys, old, ho, hn => by
    cases old with
    | arr xs =>
      obtain ⟨rs, hr, hs⟩ :=
        exists_itemsReplay_self ys (Json.ordered_arr.1 ho) (Json.ordered_arr.1 hn)
      refine ⟨.arr rs, (run?_diff_arr rfl).2 ⟨rs, rfl, hr⟩, fun hz => ?_⟩
      -- a zero inside of an item is one inside of the list
      rw [hs fun i x y hx hy => hz.of_child? (t := toString i)
        (by simp only [Json.child?, Pointer.index?_toString, Option.bind_some, hx])
        (by simp only [Json.child?, Pointer.index?_toString, Option.bind_some, hy])]
    | _ => exact exists_leadsTo_of_not_bothNested rfl
  | .obj ys, old, ho, hn => by
    cases old with
    | obj xs =>
      rw [Json.ordered_obj] at ho
      have hs : Assoc.Sorted ys := hn.1
      choose f hf using fun k => exists_memberReplay_self ys hn.2 k fun x hx => ho.2 k x hx
      -- the members that the replay leaves: the keys of the new object with the values that each
      -- reaches
      let members' := ys.map fun e => (e.1, (f e.1).getD .null)
      have hs' : Assoc.Sorted members' := hs.map fun k _ => (f k).getD .null
      have hget (k : String) : Assoc.get? k members' = f k := by
        rw [Assoc.get?_map (fun k _ => (f k).getD .null)]
        have hk := (hf k).2.1
        cases hfk : f k <;> cases hyk : Assoc.get? k ys <;> simp_all
      refine ⟨.obj members', (run?_diff_obj ho.1 hs ho.1).2 ⟨members', rfl, hs', fun k => ?_⟩,
        fun hz => congrArg Json.obj (Assoc.eq_of_get?_eq hs' hs fun k => ?_)⟩
      · rw [hget]
        exact (hf k).1
      · rw [hget]
        exact (hf k).2.2 fun x y hx hy => hz.of_child? hx hy
    | _ => exact exists_leadsTo_of_not_bothNested rfl

/-- The steps between two lists can be made on the first one, and lead to the second one where no
zero changes its sign. -/
theorem exists_itemsReplay_self : ∀ (ys : List Json) {xs : List Json},
    (∀ x ∈ xs, Json.Ordered x) → (∀ y ∈ ys, Json.Ordered y) →
    ∃ rs, ItemsReplay xs ys xs rs ∧
      ((∀ (i : Nat) x y, xs[i]? = some x → ys[i]? = some y → x.SignsKept y) → rs = ys)
  | [], xs, _, _ => ⟨[], by cases xs <;> simp [ItemsReplay], fun _ => rfl⟩
  | y :: ys, xs, hx, hy => by
    rcases xs with _ | ⟨x, xs⟩
    · exact ⟨y :: ys, by simp [ItemsReplay], fun _ => rfl⟩
    · obtain ⟨r, hr, hs⟩ := exists_leadsTo y (hx x List.mem_cons_self) (hy y List.mem_cons_self)
      obtain ⟨rs, hrs, hss⟩ := exists_itemsReplay_self ys
        (fun x h => hx x (List.mem_cons_of_mem _ h)) fun y h => hy y (List.mem_cons_of_mem _ h)
      refine ⟨r :: rs, ⟨r, rs, rfl, hr, hrs⟩, ?_⟩
      intro hz
      rw [hs (hz 0 x y rfl rfl), hss fun i => hz (i + 1)]

/-- The steps between two members can be made on the first one, and lead to the second one where no
zero changes its sign. -/
theorem exists_memberReplay_self : ∀ (ys : List (String × Json)), Json.OrderedMembers ys →
    ∀ (k : String) {x : Option Json}, (∀ a, x = some a → a.Ordered) →
    ∃ r, MemberReplay x (Assoc.get? k ys) x r ∧ (r.isSome ↔ (Assoc.get? k ys).isSome) ∧
      ((∀ a b, x = some a → Assoc.get? k ys = some b → a.SignsKept b) → r = Assoc.get? k ys)
  | [], _, k, x, _ => by
    refine ⟨none, ?_, by simp, fun _ => rfl⟩
    cases x <;> simp [Assoc.get?, MemberReplay]
  | (l, y) :: ys, hy, k, x, hx => by
    by_cases hk : l = k
    · rw [Assoc.get?, if_pos hk]
      cases x with
      | none => exact ⟨some y, rfl, by simp, fun _ => rfl⟩
      | some a =>
        obtain ⟨r, hr, hs⟩ := exists_leadsTo y (hx a rfl) hy.1
        refine ⟨some r, ⟨r, rfl, hr⟩, by simp, ?_⟩
        intro hz
        rw [hs (hz a y rfl rfl)]
    · rw [Assoc.get?, if_neg hk]
      exact exists_memberReplay_self ys hy.2 k hx

end

/-- Run on the old value, a difference leads to the new one, but for signs of zeros. -/
theorem eq_of_run?_diff {old new r : Json} (ho : old.Ordered) (hn : new.Ordered)
    (hz : old.SignsKept new) (h : run? (diff old new) old = some r) : r = new := by
  obtain ⟨r', hr, hs⟩ := exists_leadsTo new ho hn
  rw [h] at hr
  cases hr
  exact hs hz

end Patch

end TopologyHooks
