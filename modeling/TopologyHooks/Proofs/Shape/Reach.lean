import TopologyHooks.Proofs.Shape.Replay

/-!
# When a change can be replayed

A difference is computed on what is written for a value, and that may have places that the object
which was read does not have. Main statement: the difference can be run on that object exactly if
the object has every place at which what is written before and after differs, with an object there
where both sides have one (`Shape.reachable`).
-/

set_option autoImplicit false

namespace TopologyHooks

open Patch

namespace Json

/-! ## Places of a change -/

/-- Whether a value is an object. -/
def IsObj : Json → Prop
  | .obj _ => True
  | _ => False

/-- Whether a value has every place at which two others differ, and an object where both of them
have one. -/
def Reaches (raw before after : Json) : Prop :=
  ∀ path x y, before.at? path = some x → after.at? path = some y → x.same y = false →
    ∃ r, raw.at? path = some r ∧ (x.IsObj → y.IsObj → r.IsObj)

/-- Where two values are the same, there is nothing to reach. -/
theorem reaches_of_same {raw x y : Json} (h : x.same y = true) : raw.Reaches x y := by
  intro path x' y' hx hy hne
  rw [same_at? h hx hy] at hne
  cases hne

/-- A value reaches two others if it does so at every token. -/
theorem reaches_iff {raw x y : Json} :
    raw.Reaches x y ↔ (x.same y = false → x.IsObj → y.IsObj → raw.IsObj) ∧
      ∀ t x' y', x.child? t = some x' → y.child? t = some y' →
        x'.same y' = true ∨ ∃ r, raw.child? t = some r ∧ r.Reaches x' y' := by
  constructor
  · intro h
    refine ⟨fun hne => ?_, fun t x' y' hx hy => ?_⟩
    · obtain ⟨r, hr, hobj⟩ := h [] x y rfl rfl hne
      rw [at?, Option.some.injEq] at hr
      exact hr ▸ hobj
    · by_cases hs : x'.same y' = true
      · exact .inl hs
      -- a place behind the token is one of the whole value
      · have hstep (path : List String) (u v : Json) (hu : x'.at? path = some u)
            (hv : y'.at? path = some v) (hne : u.same v = false) :
            ∃ r, (raw.child? t).bind (at? · path) = some r ∧ (u.IsObj → v.IsObj → r.IsObj) := by
          refine h (t :: path) u v ?_ ?_ hne
          · rw [at?, hx, Option.bind_some, hu]
          · rw [at?, hy, Option.bind_some, hv]
        obtain ⟨_, hr, -⟩ := hstep [] x' y' rfl rfl (Bool.eq_false_iff.2 hs)
        obtain ⟨r, hr, -⟩ := Option.bind_eq_some_iff.1 hr
        refine .inr ⟨r, hr, ?_⟩
        intro path u v hu hv hne
        have hat := hstep path u v hu hv hne
        rwa [hr] at hat
  · rintro ⟨hroot, hin⟩ path u v hu hv hne
    rcases path with _ | ⟨t, ts⟩
    · rw [at?, Option.some.injEq] at hu hv
      subst hu hv
      exact ⟨raw, rfl, hroot hne⟩
    · obtain ⟨x', hx, hu⟩ := Option.bind_eq_some_iff.1 hu
      obtain ⟨y', hy, hv⟩ := Option.bind_eq_some_iff.1 hv
      rcases hin t x' y' hx hy with hs | ⟨r, hr, hreach⟩
      · rw [same_at? hs hu hv] at hne
        cases hne
      · obtain ⟨r', hr', hobj⟩ := hreach ts u v hu hv hne
        exact ⟨r', by rw [at?, hr, Option.bind_some, hr'], hobj⟩

/-- A value reaches the places at which it differs from another one. -/
theorem reaches_self {raw y : Json} : raw.Reaches raw y :=
  fun _ x _ hx _ _ => ⟨x, hx, fun h _ => h⟩

/-- An object reaches two others exactly if it has each member in which these differ, and this
reaches them. -/
theorem reaches_obj_iff {members xs ys : List (String × Json)} :
    (obj members).Reaches (.obj xs) (.obj ys) ↔ ∀ key x y, Assoc.get? key xs = some x →
      Assoc.get? key ys = some y → x.same y = true ∨
        ∃ r, Assoc.get? key members = some r ∧ r.Reaches x y := by
  rw [reaches_iff]
  exact and_iff_right fun _ _ _ => trivial

/-- An array reaches two others exactly if it has each item in which these differ, and this reaches
them. -/
theorem reaches_arr_iff {items xs ys : List Json} :
    (arr items).Reaches (.arr xs) (.arr ys) ↔ ∀ (i : Nat) x y, xs[i]? = some x →
      ys[i]? = some y → x.same y = true ∨ ∃ r, items[i]? = some r ∧ r.Reaches x y := by
  rw [reaches_iff]
  refine (and_iff_right fun _ h _ => h.elim).trans ⟨fun h i x y hx hy => ?_, ?_⟩
  · have hi := h (toString i) x y
    simp only [child?, Pointer.index?_toString, Option.bind_some] at hi
    exact hi hx hy
  · intro h t x y hx hy
    simp only [child?] at hx hy ⊢
    cases hi : Pointer.index? t with
    | none => simp [hi] at hx
    | some i =>
      rw [hi, Option.bind_some] at hx hy
      exact h i x y hx hy

/-- Any value reaches two others of which one has nothing inside. -/
theorem reaches_of_childless {raw x y : Json} (hn : bothNested x y = false)
    (h : ∀ t, x.child? t = none ∨ y.child? t = none) : raw.Reaches x y := by
  refine reaches_iff.2 ⟨fun _ hx hy => ?_, fun t x' y' hx hy => ?_⟩
  · cases x <;> cases y <;> simp_all [IsObj, bothNested]
  · rcases h t with h | h
    · cases h.symm.trans hx
    · cases h.symm.trans hy

/-- A single value has no children. -/
theorem Exact.child? {y : Json} (h : y.Exact) (t : String) : y.child? t = none := by
  cases y <;> simp [Exact, Json.child?] at h ⊢

end Json

/-! ## Replaying by shape -/

/-- Unless both values are arrays or both are objects, a difference can be run on anything. -/
theorem Patch.exists_run?_diff_of_not_bothNested {old new : Json} (h : bothNested old new = false)
    (raw : Json) : ∃ r, run? (diff old new) raw = some r := by
  rw [diff_of_not_bothNested h]
  split
  · exact ⟨raw, run?_nil raw⟩
  · exact ⟨new, run?_replace_root new raw⟩

/-- Whether a change of a value of a shape can be replayed on what it was read from exactly if all
its places are there. -/
def Shape.Reachable {α : Type} (s : Shape α) : Prop :=
  ∀ ⦃raw : Json⦄ ⦃a b : α⦄, s.Reads raw a → (s.toJson b).Ordered →
    ((∃ r, run? (diff (s.toJson a) (s.toJson b)) raw = some r) ↔
      raw.Reaches (s.toJson a) (s.toJson b))

namespace Shape

variable {α β : Type} {s : Shape α}

/-- Changes of what is written as a single value can be made anywhere. -/
theorem reachable_of_exact (h : ∀ b, (s.toJson b).Exact) : s.Reachable := by
  intro raw a b _ _
  have hn : bothNested (s.toJson a) (s.toJson b) = false := bothNested_of_exact (h b)
  exact iff_of_true (exists_run?_diff_of_not_bothNested hn raw)
    (Json.reaches_of_childless hn fun t => .inr ((h b).child? t))

/-- Changes of JSON that is kept as it is can be made where it reaches them. -/
theorem reachable_json : json.Reachable := by
  intro raw a b ha hb
  obtain ⟨ho, rfl⟩ := reads_json_iff.1 ha
  obtain ⟨r, hr, -⟩ := exists_leadsTo b ho hb
  exact iff_of_true ⟨r, hr⟩ Json.reaches_self

/-- Changes of what may be missing can be made where its value reaches them. -/
theorem reachable_nullable (h : s.Reachable) : s.nullable.Reachable := by
  intro raw o b ha hb
  rcases reads_nullable_iff.1 ha with ⟨rfl, rfl⟩ | ⟨-, a, hin, rfl⟩
  · have hn : bothNested .null (s.nullable.toJson b) = false := rfl
    rw [show s.nullable.toJson none = .null by rw [toJson]]
    exact iff_of_true (exists_run?_diff_of_not_bothNested hn _)
      (Json.reaches_of_childless hn fun _ => .inl rfl)
  · cases b with
    | none =>
      have hn : bothNested (s.toJson a) .null = false := by cases s.toJson a <;> rfl
      simp only [toJson]
      exact iff_of_true (exists_run?_diff_of_not_bothNested hn _)
        (Json.reaches_of_childless hn fun _ => .inr rfl)
    | some b =>
      simp only [toJson] at hb ⊢
      exact h hin hb

/-- The steps between two lists can be made on the items that the first one was read from exactly if
each item reaches the change of it. -/
theorem exists_itemsReplay_iff (h : s.Reachable) :
    ∀ {items : List Json} {as bs : List α}, List.Forall₂ s.Reads items as →
      (∀ b ∈ bs, (s.toJson b).Ordered) →
      ((∃ items', ItemsReplay (as.map s.toJson) (bs.map s.toJson) items items') ↔
        ∀ (i : Nat) x y, (as.map s.toJson)[i]? = some x → (bs.map s.toJson)[i]? = some y →
          x.same y = true ∨ ∃ r, items[i]? = some r ∧ r.Reaches x y)
  | _, [], bs, ha, _ => by simp [ItemsReplay]
  | _, a :: as, [], ha, _ => by simp [ItemsReplay]
  | x :: items, a :: as, b :: bs, ha, hb => by
    obtain ⟨hx, ha⟩ := List.forall₂_cons.1 ha
    have hhead := h hx (hb b List.mem_cons_self)
    have htail := exists_itemsReplay_iff h ha fun b' hb' => hb b' (List.mem_cons_of_mem _ hb')
    have hsplit : (∃ items', ItemsReplay ((a :: as).map s.toJson) ((b :: bs).map s.toJson)
        (x :: items) items') ↔ (∃ r, run? (diff (s.toJson a) (s.toJson b)) x = some r) ∧
          ∃ items', ItemsReplay (as.map s.toJson) (bs.map s.toJson) items items' := by
      simp only [List.map_cons, ItemsReplay]
      constructor
      · rintro ⟨_, r, rest, rfl, hr, hrest⟩
        exact ⟨⟨r, hr⟩, rest, hrest⟩
      · rintro ⟨⟨r, hr⟩, rest, hrest⟩
        exact ⟨_, r, rest, rfl, hr, hrest⟩
    rw [hsplit, hhead, htail]
    constructor
    · rintro ⟨hr, hrest⟩ i u v hu hv
      cases i with
      | zero =>
        cases hu
        cases hv
        exact .inr ⟨x, rfl, hr⟩
      | succ i => exact hrest i u v hu hv
    · intro hr
      refine ⟨?_, fun i => hr (i + 1)⟩
      rcases hr 0 _ _ rfl rfl with hs | ⟨r, hr, hreach⟩
      · exact Json.reaches_of_same hs
      · cases hr
        exact hreach

/-- Changes of a list can be made where its items reach them. -/
theorem reachable_list (h : s.Reachable) : s.list.Reachable := by
  intro raw as bs ha hb
  obtain ⟨items, rfl, hf⟩ := reads_list_iff.1 ha
  simp only [toJson] at hb ⊢
  have hl : items.length = (as.map s.toJson).length := by rw [List.length_map, hf.length_eq]
  have hb : ∀ b ∈ bs, (s.toJson b).Ordered := fun b hmem =>
    Json.ordered_arr.1 hb _ (List.mem_map_of_mem hmem)
  rw [Json.reaches_arr_iff, ← exists_itemsReplay_iff h hf hb]
  constructor
  · rintro ⟨r, hr⟩
    obtain ⟨items', -, hi⟩ := (run?_diff_arr hl).1 hr
    exact ⟨items', hi⟩
  · rintro ⟨items', hi⟩
    exact ⟨.arr items', (run?_diff_arr hl).2 ⟨items', rfl, hi⟩⟩

/-! ### Members -/

/-- Whether what is found in a slot reaches what is written there before and after. -/
def SlotReaches (x y slot : Option Json) : Prop :=
  ∀ x' y', x = some x' → y = some y' →
    x'.same y' = true ∨ ∃ r, slot = some r ∧ r.Reaches x' y'

/-- The steps for a value can be made in its slot exactly if what is there reaches the change of
it. -/
theorem exists_memberReplay_iff (hs : s.Reachable) {raw : Json} {a b : α} (ha : s.Reads raw a)
    (hb : (s.toJson b).Ordered) :
    (∃ j, MemberReplay (some (s.toJson a)) (some (s.toJson b)) (some raw) j) ↔
      SlotReaches (some (s.toJson a)) (some (s.toJson b)) (some raw) := by
  have hsplit : (∃ j, MemberReplay (some (s.toJson a)) (some (s.toJson b)) (some raw) j) ↔
      ∃ r, run? (diff (s.toJson a) (s.toJson b)) raw = some r := by
    simp only [MemberReplay]
    constructor
    · rintro ⟨j, r, -, hr⟩
      exact ⟨r, hr⟩
    · rintro ⟨r, hr⟩
      exact ⟨_, r, rfl, hr⟩
  rw [hsplit, hs ha hb]
  constructor
  · rintro hr _ _ ⟨⟩ ⟨⟩
    exact .inr ⟨raw, rfl, hr⟩
  · intro hr
    rcases hr _ _ rfl rfl with hs | ⟨r, hr, hreach⟩
    · exact Json.reaches_of_same hs
    · cases hr
      exact hreach

/-- Changes of a dictionary can be made where its values reach them. -/
theorem reachable_dictionary (h : s.Reachable) : s.dictionary.Reachable := by
  intro raw d e ha hb
  obtain ⟨members, rfl, hs, hd⟩ := reads_dictionary_iff.1 ha
  simp only [toJson] at hb ⊢
  have hx := d.sorted.map fun _ => s.toJson
  have hy := e.sorted.map fun _ => s.toJson
  rw [exists_run?_diff_obj_iff hx hy hs, Json.reaches_obj_iff]
  refine forall_congr' ?_
  intro key
  have hord (y : Json) (hk : Assoc.get? key (e.entries.map fun e => (e.1, s.toJson e.2)) = some y) :
      y.Ordered := (Json.ordered_obj.1 hb).2 key y hk
  rw [Assoc.get?_map (fun _ => s.toJson)] at hord ⊢
  rw [Assoc.get?_map (fun _ => s.toJson)]
  have hd := hd key
  unfold Dictionary.get? at hd
  generalize Assoc.get? key members = slot at hd ⊢
  generalize Assoc.get? key d.entries = o at hd ⊢
  generalize Assoc.get? key e.entries = o' at hord ⊢
  cases hd with
  | none => cases o' <;> simp [MemberReplay]
  | some hread =>
    cases o' with
    | none => simp [MemberReplay]
    | some b => exact exists_memberReplay_iff h hread (hord _ rfl)

/-- The steps for a field can be made in its slot exactly if what is there reaches the change of
it. -/
theorem exists_slot_memberReplay_iff {p : Presence α} (hp : p.Lawful s) (hr : s.Regular)
    (hs : s.Reachable) {slot : Option Json} {a b : α} (ha : p.Reads s slot a)
    (hb : ∀ y, p.written s b = some y → y.Ordered) :
    (∃ j, MemberReplay (p.written s a) (p.written s b) slot j) ↔
      SlotReaches (p.written s a) (p.written s b) slot := by
  have hx := fun x => Presence.ordered_of_mem_written hp hr ha (fun raw => s.ordered_toJson hr)
    (x := x)
  unfold Presence.written at hb hx ⊢
  by_cases hsa : p.skips a = true <;> by_cases hsb : p.skips b = true
  · simp [if_pos hsa, if_pos hsb, MemberReplay, SlotReaches]
  · simp [if_pos hsa, if_neg hsb, MemberReplay, SlotReaches]
  · cases slot with
    | none =>
      have hab := (show p.absent? = some a from ha).symm.trans (absent?_eq_some_of_skips hp hsb)
      obtain rfl : a = b := Option.some.inj hab
      exact absurd hsb hsa
    | some r => simp [if_neg hsa, if_pos hsb, MemberReplay, SlotReaches]
  · rw [if_neg hsa] at hx
    rw [if_neg hsb] at hb
    rw [if_neg hsa, if_neg hsb]
    cases slot with
    | none =>
      have hd := diff_eq_nil_iff (s.toJson b) (hx _ rfl) (hb _ rfl)
      simp [MemberReplay, SlotReaches, hd]
    | some raw => exact exists_memberReplay_iff hs ha (hb _ rfl)

/-- Changes of a record can be made where its members reach them, if this is so for each field. -/
theorem reachable_record {form : Form} {fields : Fields β} {into : β → α} {outOf : α → β}
    (hr : (record form fields into outOf).Regular)
    (h : ∀ {x y look : String → Option Json} {b b' : β}, fields.Reads (fields.keys.map look) b →
      fields.written b = fields.keys.map x → fields.written b' = fields.keys.map y →
      (∀ key v, y key = some v → v.Ordered) → ∀ key ∈ fields.keys,
        ((∃ j, MemberReplay (x key) (y key) (look key) j) ↔
          SlotReaches (x key) (y key) (look key))) :
    (record form fields into outOf).Reachable := by
  intro raw a a' ha hb
  have hord := ordered_toJson _ hr ha
  obtain ⟨-, hout, hf⟩ := hr
  have hnodup := hf.nodup_keys
  obtain ⟨members, rfl⟩ | ⟨items, rfl⟩ := nested_of_reads_record ha
  · obtain ⟨ho, b, hread, rfl⟩ := reads_record_obj_iff.1 ha
    rw [toJson_record] at hb hord ⊢
    rw [toJson_record, hout, exists_run?_diff_obj_iff (fields.sorted_sorted _)
      (fields.sorted_sorted _) (Json.ordered_obj.1 ho).1, Json.reaches_obj_iff]
    refine forall_congr' ?_
    -- both sides are about one key at a time; a key that no field has is not written at all
    intro key
    by_cases hkey : key ∈ fields.keys
    · exact h hread (Fields.map_get?_sorted hnodup b).symm
        (Fields.map_get?_sorted hnodup (outOf a')).symm
        (Json.ordered_obj.1 hb).2 key hkey
    · rw [Fields.get?_sorted_eq_none hnodup _ hkey, Fields.get?_sorted_eq_none hnodup _ hkey]
      simp [MemberReplay]
  -- no step can be made in an array, so the values have to be the same
  · have hnil := diff_eq_nil_iff _ hord hb
    constructor
    · rintro ⟨r, hr⟩
      exact Json.reaches_of_same (hnil.1 ((run?_diff_record_arr hf).1 hr).1)
    · intro hreach
      refine ⟨.arr items, (run?_diff_record_arr hf).2 ⟨hnil.2 ?_, rfl⟩⟩
      by_contra hne
      rw [toJson_record, toJson_record] at hreach hne
      exact (Json.reaches_iff.1 hreach).1 (Bool.eq_false_iff.2 hne) trivial trivial

end Shape

/-! ### All shapes -/

open Shape

mutual

/-- A change of a value of a regular shape can be replayed on what it was read from exactly if that
has all its places. -/
theorem Shape.reachable : ∀ {α : Type} (s : Shape α), s.Regular → s.Reachable
  | _, .text, _ => reachable_of_exact fun _ => trivial
  | _, .flag, _ => reachable_of_exact fun _ => trivial
  | _, .integer _ _ _, h => reachable_of_exact (exact_integer h)
  | _, .json, _ => reachable_json
  | _, .spelled _ _ _, _ => reachable_of_exact fun _ => trivial
  | _, .list item, h => reachable_list (Shape.reachable item h)
  | _, .dictionary item, h => reachable_dictionary (Shape.reachable item h)
  | _, .nullable inner, h => reachable_nullable (Shape.reachable inner h.2)
  | _, .record _ fields _ _, h => reachable_record h (Fields.reachable fields h.2.2)
  | _, .mapped _ _ _, h => reachable_of_exact (exact_mapped h)

/-- The steps for each field can be made in its slot exactly if what is there reaches the change of
it. -/
theorem Fields.reachable : ∀ {β : Type} (fields : Fields β), fields.Regular →
    ∀ {x y look : String → Option Json} {b b' : β}, fields.Reads (fields.keys.map look) b →
      fields.written b = fields.keys.map x → fields.written b' = fields.keys.map y →
      (∀ key v, y key = some v → v.Ordered) → ∀ key ∈ fields.keys,
        ((∃ j, MemberReplay (x key) (y key) (look key) j) ↔
          SlotReaches (x key) (y key) (look key))
  | _, .done, _, _, _, _, _, _, _, _, _, _, _, hk => by simp [Fields.keys] at hk
  | _, .field k p s rest, h, x, y, look, b, b', hread, hx, hy, hord, key, hk => by
    simp only [Fields.written, Fields.keys, List.map_cons, List.cons.injEq] at hx hy
    rcases List.mem_cons.1 hk with rfl | hk
    · rw [← hx.1, ← hy.1]
      exact exists_slot_memberReplay_iff h.2.2.1 h.2.2.2.1 (Shape.reachable s h.2.2.2.1) hread.1
        fun v hv => hord _ v (hy.1 ▸ hv)
    · exact Fields.reachable rest h.2.2.2.2 hread.2 hx.2 hy.2 hord key hk

end

end TopologyHooks
