import TopologyHooks.Proofs.Shape.Replay

/-!
# Members that are not modelled

* `Shape.Stray` — whether a path of a JSON value leads to, or into, a member that a shape does not
  know. It goes into records given as arrays as well.
* `Shape.Preserves` — whether replaying a change of a value leaves all such members where they are
  and as they are. There is one statement for every kind of shape; a change of a record preserves
  them if the changes of all its fields do (`Shape.preserves_record`).
-/

set_option autoImplicit false

namespace TopologyHooks

open Patch

mutual

/-- Whether a path of a value leads to, or into, a member that a shape does not know. -/
def Shape.Stray : {α : Type} → Shape α → Json → List String → Prop
  | _, .list item, .arr items, t :: ts =>
    ∃ i x, Pointer.index? t = some i ∧ items[i]? = some x ∧ Shape.Stray item x ts
  | _, .dictionary item, .obj members, t :: ts =>
    ∃ x, Assoc.get? t members = some x ∧ Shape.Stray item x ts
  | _, .record _ fields _ _, .obj members, t :: ts =>
    ∃ x, Assoc.get? t members = some x ∧ Fields.StrayMember fields t x ts
  | _, .record _ fields _ _, .arr items, t :: ts =>
    ∃ i x, Pointer.index? t = some i ∧ items[i]? = some x ∧ Fields.StrayItem fields i x ts
  | _, .flattened _ own base _ _, .obj members, t :: ts =>
    ∃ x, Assoc.get? t members = some x ∧
      Fields.StrayMember own t x ts ∧ Fields.StrayMember base t x ts
  | _, .nullable inner, raw, path => Shape.Stray inner raw path
  | _, .mapped inner _ _, raw, path => Shape.Stray inner raw path
  | _, .deferred level _, raw, path => Shape.Stray (level raw.depth) raw path
  | _, .described _ inner, raw, path => Shape.Stray inner raw path
  | _, _, _, _ => False

/-- The same behind a member: either no field has its key, or the field does not know the place. -/
def Fields.StrayMember : {β : Type} → Fields β → (key : String) → Json → List String → Prop
  | _, .done, _, _, _ => True
  | _, .field k _ s rest, key, x, path =>
    if k = key then Shape.Stray s x path else Fields.StrayMember rest key x path

/-- The same behind an item of a record that is given as an array. -/
def Fields.StrayItem : {β : Type} → Fields β → (index : Nat) → Json → List String → Prop
  | _, .done, _, _, _ => False
  | _, .field _ _ s _, 0, x, path => Shape.Stray s x path
  | _, .field _ _ _ rest, i + 1, x, path => Fields.StrayItem rest i x path

end

/-- Whether a shape knows no records, and so models everything. -/
def Shape.Closed : {α : Type} → Shape α → Prop
  | _, .list item => item.Closed
  | _, .dictionary item => item.Closed
  | _, .nullable inner => inner.Closed
  | _, .mapped inner _ _ => inner.Closed
  | _, .described _ inner => inner.Closed
  | _, .record _ _ _ _ => False
  | _, .flattened _ _ _ _ _ => False
  | _, .deferred _ _ => False
  | _, _ => True

namespace Shape

/-- Null holds no members that are not known. -/
theorem not_stray_null : ∀ {α : Type} (s : Shape α) (path : List String), ¬ s.Stray .null path
  | _, .nullable inner, path => not_stray_null inner path
  | _, .mapped inner _ _, path => not_stray_null inner path
  | _, .deferred level _, path => not_stray_null (level _) path
  | _, .described _ inner, path => not_stray_null inner path
  | _, .text, _ => id
  | _, .flag, _ => id
  | _, .integer _ _ _, _ => id
  | _, .real, _ => id
  | _, .json, _ => id
  | _, .spelled _ _ _, _ => id
  | _, .choice _ _, _ => id
  | _, .list _, _ => id
  | _, .dictionary _, _ => id
  | _, .record _ _ _ _, _ => id
  | _, .flattened _ _ _ _ _, _ => id

/-- A shape that models everything knows all members. -/
theorem not_stray_of_closed : ∀ {α : Type} (s : Shape α), s.Closed → ∀ (raw : Json)
    (path : List String), ¬ s.Stray raw path
  | _, .list item, h, raw, path => by
    rcases raw with _ | _ | _ | _ | items | _ <;> rcases path with _ | ⟨t, ts⟩ <;> try exact id
    rintro ⟨i, x, -, -, hx⟩
    exact not_stray_of_closed item h x ts hx
  | _, .dictionary item, h, raw, path => by
    rcases raw with _ | _ | _ | _ | _ | members <;> rcases path with _ | ⟨t, ts⟩ <;> try exact id
    rintro ⟨x, -, hx⟩
    exact not_stray_of_closed item h x ts hx
  | _, .nullable inner, h, raw, path => not_stray_of_closed inner h raw path
  | _, .mapped inner _ _, h, raw, path => not_stray_of_closed inner h raw path
  | _, .described _ inner, h, raw, path => not_stray_of_closed inner h raw path
  | _, .text, _, _, _ => id
  | _, .flag, _, _, _ => id
  | _, .integer _ _ _, _, _, _ => id
  | _, .real, _, _, _ => id
  | _, .json, _, _, _ => id
  | _, .spelled _ _ _, _, _, _ => id
  | _, .choice _ _, _, _, _ => id

/-! ## Changes that preserve them -/

/-- Whether replaying a change of a value leaves all members that are not modelled as they are. -/
def Preserves {α : Type} (s : Shape α) (a b : α) : Prop :=
  ∀ ⦃raw raw' : Json⦄ ⦃path : List String⦄ ⦃v : Json⦄, s.Reads raw a →
    run? (diff (s.toJson a) (s.toJson b)) raw = some raw' → s.Stray raw path →
    raw.at? path = some v → s.Stray raw' path ∧ raw'.at? path = some v

variable {α β : Type} {s : Shape α}

/-- To change nothing leaves all members as they are. -/
theorem preserves_refl (hs : s.Regular) (a : α) : s.Preserves a a := by
  intro raw raw' path v ha hrun hstray hv
  rw [diff_self (s.ordered_toJson hs ha), run?_nil, Option.some.injEq] at hrun
  exact hrun ▸ ⟨hstray, hv⟩

/-- An item that both lists have becomes, in the replay of the steps between them, what the steps
for it make of it. -/
theorem exists_item_of_itemsReplay :
    ∀ {xs ys items items' : List Json}, ItemsReplay xs ys items items' → ∀ {i : Nat} {x y r : Json},
      xs[i]? = some x → ys[i]? = some y → items[i]? = some r →
      ∃ r', items'[i]? = some r' ∧ run? (diff x y) r = some r'
  | x :: xs, y :: ys, a :: items, _, h, i, u, v, r, hu, hv, hr => by
    obtain ⟨a', rest, rfl, hrun, h⟩ := h
    cases i with
    | zero =>
      cases hu
      cases hv
      cases hr
      exact ⟨a', rfl, hrun⟩
    | succ i => exact exists_item_of_itemsReplay h hu hv hr
  | [], _, _, _, _, _, _, _, _, hu, _, _ => by simp at hu
  | _ :: _, [], _, _, _, _, _, _, _, _, hv, _ => by simp at hv
  | _ :: _, _ :: _, [], _, _, _, _, _, _, _, _, hr => by simp at hr

/-- A change of a list that keeps and changes every item, and may append more. -/
theorem preserves_list {as bs : List α}
    (h : ∀ (i : Nat) a, as[i]? = some a → ∃ b, bs[i]? = some b ∧ s.Preserves a b) :
    s.list.Preserves as bs := by
  intro raw raw' path v ha hrun hstray hv
  obtain ⟨items, rfl, hf⟩ := reads_list_iff.1 ha
  rcases path with _ | ⟨t, ts⟩
  · exact hstray.elim
  obtain ⟨i, x, ht, hx, hstray⟩ := hstray
  simp only [toJson] at hrun
  have hl : items.length = (as.map s.toJson).length := by rw [List.length_map, hf.length_eq]
  obtain ⟨items', rfl, hi⟩ := (run?_diff_arr hl).1 hrun
  obtain ⟨hlt, hxi⟩ := List.getElem?_eq_some_iff.1 hx
  have hlt' : i < as.length := hf.length_eq ▸ hlt
  have hread : s.Reads x as[i] := hxi ▸ hf.get hlt hlt'
  obtain ⟨b, hb, hpres⟩ := h i as[i] (List.getElem?_eq_getElem hlt')
  obtain ⟨x', hx', hrun⟩ := exists_item_of_itemsReplay hi
    (by rw [List.getElem?_map, List.getElem?_eq_getElem hlt', Option.map_some])
    (by rw [List.getElem?_map, hb, Option.map_some]) hx
  have hvx : x.at? ts = some v := by
    simpa only [Json.at?, Json.child?, ht, Option.bind_some, hx] using hv
  obtain ⟨hstray', hv'⟩ := hpres hread hrun hstray hvx
  refine ⟨⟨i, x', ht, hx', hstray'⟩, ?_⟩
  simpa only [Json.at?, Json.child?, ht, Option.bind_some, hx'] using hv'

/-- A change of a value that is set to one that is still set. -/
theorem preserves_nullable {o o' : Option α}
    (h : ∀ a, o = some a → ∃ b, o' = some b ∧ s.Preserves a b) : s.nullable.Preserves o o' := by
  intro raw raw' path v ha hrun hstray hv
  have hstray : s.Stray raw path := hstray
  rcases reads_nullable_iff.1 ha with ⟨rfl, -⟩ | ⟨-, a, hin, rfl⟩
  · exact absurd hstray (s.not_stray_null path)
  · obtain ⟨b, rfl, hpres⟩ := h a rfl
    simp only [toJson] at hrun
    exact hpres hin hrun hstray hv

end Shape

/-! ## Records -/

/-- Whether replaying a change of a field of an object leaves what is not modelled behind it. -/
def Presence.Preserves {α : Type} (p : Presence α) (s : Shape α) (a b : α) : Prop :=
  ∀ ⦃x : Json⦄ ⦃slot : Option Json⦄ ⦃path : List String⦄ ⦃v : Json⦄, s.Reads x a →
    MemberReplay (p.written s a) (p.written s b) (some x) slot → s.Stray x path →
    x.at? path = some v → ∃ x', slot = some x' ∧ s.Stray x' path ∧ x'.at? path = some v

namespace Presence

open Shape

variable {α : Type} {s : Shape α}

/-- Every change of a field that models everything leaves no member to be preserved. -/
theorem preserves_of_closed {p : Presence α} {a b : α} (hs : s.Closed) : p.Preserves s a b :=
  fun x _ path _ _ _ hstray _ => absurd hstray (s.not_stray_of_closed hs x path)

/-- A field whose values are written whenever they may hold what is not modelled. -/
theorem preserves {p : Presence α} {a b : α}
    (ha : p.skips a = true → ∀ x path, s.Reads x a → ¬ s.Stray x path)
    (hb : p.skips b = true → p.skips a = true) (h : s.Preserves a b) : p.Preserves s a b := by
  intro x slot path v hread hm hstray hv
  by_cases hsa : p.skips a = true
  · exact absurd hstray (ha hsa x path hread)
  · have hsb : ¬ p.skips b = true := fun hsb => hsa (hb hsb)
    unfold Presence.written at hm
    rw [if_neg hsa, if_neg hsb] at hm
    obtain ⟨x', rfl, hrun⟩ := hm
    exact ⟨x', rfl, h hread hrun hstray hv⟩

/-- To change nothing of a field leaves all members as they are. -/
theorem preserves_refl (p : Presence α) (hs : s.Regular) (a : α) : p.Preserves s a a := by
  intro x slot path v hread hm hstray hv
  unfold Presence.written at hm
  by_cases hsa : p.skips a = true
  · rw [if_pos hsa] at hm
    exact ⟨x, hm, hstray, hv⟩
  · rw [if_neg hsa] at hm
    obtain ⟨x', rfl, hrun⟩ := hm
    exact ⟨x', rfl, s.preserves_refl hs a hread hrun hstray hv⟩

/-- An optional field that is set and stays so. -/
theorem preserves_optional {o o' : Option α}
    (h : ∀ a, o = some a → ∃ b, o' = some b ∧ s.Preserves a b) :
    (Presence.omitted none Option.isNone).Preserves s.nullable o o' := by
  refine preserves (fun ho x path hread hstray => ?_) (fun ho => ?_) (preserves_nullable h)
  · have ho : o = none := Option.isNone_iff_eq_none.1 ho
    rcases reads_nullable_iff.1 hread with ⟨rfl, -⟩ | ⟨-, a, -, ha⟩
    · exact s.nullable.not_stray_null path hstray
    · cases ha.trans ho
  · cases o with
    | none => rfl
    | some a =>
      obtain ⟨b, rfl, -⟩ := h a rfl
      cases ho

/-- A list whose items are kept and changed, and to which more may be appended. -/
theorem preserves_listed {as bs : List α}
    (h : ∀ (i : Nat) a, as[i]? = some a → ∃ b, bs[i]? = some b ∧ s.Preserves a b) :
    (Presence.omitted [] List.isEmpty).Preserves s.list as bs := by
  refine preserves (fun has x path hread hstray => ?_) (fun hbs => ?_) (preserves_list h)
  · obtain rfl : as = [] := List.isEmpty_iff.1 has
    obtain ⟨items, rfl, hf⟩ := reads_list_iff.1 hread
    cases hf
    rcases path with _ | ⟨t, ts⟩
    · exact hstray.elim
    · obtain ⟨i, y, -, hy, -⟩ := hstray
      simp at hy
  · obtain rfl : bs = [] := List.isEmpty_iff.1 hbs
    cases as with
    | nil => rfl
    | cons a as =>
      obtain ⟨b, hb, -⟩ := h 0 a rfl
      simp at hb

end Presence

namespace Fields

/-- Whether replaying a change of the fields of an object leaves what is not modelled. -/
def Preserves : {β : Type} → Fields β → β → β → Prop
  | _, .done, _, _ => True
  | _, .field _ p s rest, b, b' => p.Preserves s b.1 b'.1 ∧ rest.Preserves b.2 b'.2

/-- Whether no field of an object knows records. -/
def Closed : {β : Type} → Fields β → Prop
  | _, .done => True
  | _, .field _ _ s rest => s.Closed ∧ rest.Closed

/-- Every change of fields that model everything leaves no member in them to be preserved. -/
theorem preserves_of_closed : ∀ {β : Type} {fields : Fields β} {b b' : β}, fields.Closed →
    fields.Preserves b b'
  | _, .done, _, _, _ => trivial
  | _, .field _ _ _ _, _, _, h => ⟨Presence.preserves_of_closed h.1, preserves_of_closed h.2⟩

/-- A member whose key no field has is not known, with all that is in it. -/
theorem strayMember_of_not_mem : ∀ {β : Type} (fields : Fields β) {key : String},
    key ∉ fields.keys → ∀ (x : Json) (path : List String), fields.StrayMember key x path
  | _, .done, _, _, _, _ => trivial
  | _, .field k _ s rest, key, h, x, path => by
    obtain ⟨hne, h⟩ := not_or.1 (List.mem_cons.not.1 h)
    rw [StrayMember, if_neg (Ne.symm hne)]
    exact strayMember_of_not_mem rest h x path

/-- A member that a field knows keeps what is not modelled in it, where the change of the field
preserves that. -/
theorem exists_member_of_preserves : ∀ {β : Type} (fields : Fields β), fields.Regular →
    ∀ {b b' : β}, fields.Preserves b b' → ∀ {x y look look' : String → Option Json},
      fields.Reads (fields.keys.map look) b → fields.written b = fields.keys.map x →
      fields.written b' = fields.keys.map y →
      ∀ {key : String}, key ∈ fields.keys →
        MemberReplay (x key) (y key) (look key) (look' key) →
        ∀ {u v : Json} {path : List String}, look key = some u → fields.StrayMember key u path →
          u.at? path = some v →
          ∃ u', look' key = some u' ∧ fields.StrayMember key u' path ∧ u'.at? path = some v
  | _, .done, _, _, _, _, _, _, _, _, _, _, _, _, hk, _, _, _, _, _, _, _ => by
    simp [keys] at hk
  | _, .field k p s rest, h, b, b', hpres, x, y, look, look', hread, hx, hy, key, hk, hm, u, v,
      path, hu, hstray, hv => by
    simp only [written, keys, List.map_cons, List.cons.injEq] at hx hy
    rcases List.mem_cons.1 hk with rfl | hk
    · rw [← hx.1, ← hy.1, hu] at hm
      have hread : p.Reads s (look key) b.1 := hread.1
      rw [hu] at hread
      rw [StrayMember, if_pos rfl] at hstray
      obtain ⟨u', hu', hstray', hv'⟩ := hpres.1 hread hm hstray hv
      refine ⟨u', hu', ?_, hv'⟩
      rwa [StrayMember, if_pos rfl]
    · have hne : k ≠ key := fun e => h.2.1 (e ▸ hk)
      rw [StrayMember, if_neg hne] at hstray
      obtain ⟨u', hu', hstray', hv'⟩ := exists_member_of_preserves rest h.2.2.2.2 hpres.2 hread.2
        hx.2 hy.2 hk hm hu hstray hv
      refine ⟨u', hu', ?_, hv'⟩
      rwa [StrayMember, if_neg hne]

end Fields

/-- A change of a record preserves what is not modelled if the changes of its fields do. -/
theorem Shape.preserves_record {α β : Type} {form : Form} {fields : Fields β} {into : β → α}
    {outOf : α → β} (hr : (Shape.record form fields into outOf).Regular) {a b : α}
    (h : fields.Preserves (outOf a) (outOf b)) :
    (Shape.record form fields into outOf).Preserves a b := by
  obtain ⟨-, hout, hf⟩ := hr
  have hnodup := hf.nodup_keys
  intro raw raw' path v ha hrun hstray hv
  obtain ⟨members, rfl⟩ | ⟨items, rfl⟩ := nested_of_reads_record ha
  · obtain ⟨ho, b0, hread, rfl⟩ := reads_record_obj_iff.1 ha
    obtain ⟨members', rfl, -, hm⟩ := (run?_diff_record_obj (Json.ordered_obj.1 ho).1).1 hrun
    rw [hout] at h hm
    -- the object itself is known, so the path goes on to a member
    rcases path with _ | ⟨t, ts⟩
    · exact hstray.elim
    obtain ⟨x, hxt, hstray⟩ := hstray
    have hvx : x.at? ts = some v := by
      simpa only [Json.at?, Json.child?, hxt, Option.bind_some] using hv
    have hmember : ∃ x', Assoc.get? t members' = some x' ∧ fields.StrayMember t x' ts ∧
        x'.at? ts = some v := by
      by_cases hkey : t ∈ fields.keys
      · let look' (key : String) : Option Json := Assoc.get? key members'
        have hmt : MemberReplay _ _ (Assoc.get? t members) (look' t) := hm t
        exact Fields.exists_member_of_preserves fields hf h hread
          (Fields.map_get?_sorted hnodup b0).symm (Fields.map_get?_sorted hnodup (outOf b)).symm hkey
          hmt hxt hstray hvx
      · have hmt := (memberReplay_iff_of_not_mem_keys hnodup hkey).1 (hm t)
        exact ⟨x, hmt.trans hxt, fields.strayMember_of_not_mem hkey x ts, hvx⟩
    obtain ⟨x', hxt', hstray', hv'⟩ := hmember
    refine ⟨⟨x', hxt', hstray'⟩, ?_⟩
    simpa only [Json.at?, Json.child?, hxt', Option.bind_some] using hv'
  -- no step can be made in an array, so it is as it was
  · obtain ⟨-, rfl⟩ := (run?_diff_record_arr hf).1 hrun
    exact ⟨hstray, hv⟩

end TopologyHooks
