import TopologyHooks.Proofs.Shape.RoundTrip

/-!
# Replaying a change on the object that was read

A change of a value is written as the difference of what is written before and after. The object
that the value was read from may look different: it may have members that are not modelled, spell
points in time in its own way or lack what has a default. Main statement: when the difference can
be run on that object, the result is read as the changed value (`Shape.replayable`).
-/

set_option autoImplicit false

namespace TopologyHooks

open Patch

/-! ## Values without parts -/

/-- Whether a value is a truth value, an integer or a string. -/
def Json.Exact : Json → Prop
  | .bool _ => True
  | .num (.int _ _) => True
  | .str _ => True
  | _ => False

namespace Patch

/-- A single value is neither an array nor an object. -/
theorem bothNested_of_exact {old new : Json} (h : new.Exact) : bothNested old new = false := by
  cases new <;> simp only [Json.Exact] at h <;> cases old <;> rfl

/-- What is the same as a single value is this value. -/
theorem eq_of_same_of_exact {old new : Json} (h : new.Exact) (hs : old.same new = true) :
    old = new := by
  refine eq_of_same_of_not_bothNested (bothNested_of_exact h) hs ?_
  intro path a b _ hb _
  exfalso
  rcases path with _ | ⟨t, ts⟩
  · rw [Json.at?, Option.some.injEq] at hb
    rw [hb] at h
    exact h
  · cases new <;> simp [Json.Exact, Json.at?, Json.child?] at h hb

/-- Unless both values are arrays or both are objects, a difference changes nothing, and then they
are the same, or it leads to the new value. -/
theorem eq_or_eq_of_run?_diff {old new raw raw' : Json} (h : bothNested old new = false)
    (hrun : run? (diff old new) raw = some raw') :
    (old.same new = true ∧ raw' = raw) ∨ raw' = new := by
  rw [diff_of_not_bothNested h] at hrun
  split at hrun
  · rename_i hs
    exact .inl ⟨hs, (Option.some.inj hrun).symm⟩
  · rw [run?_replace_root] at hrun
    exact .inr (Option.some.inj hrun).symm

end Patch

/-! ## Slots -/

namespace Patch

/-- What replaying does to the slots of a record: `xs` and `ys` are what is written before and
after, `slots` and `slots'` what is found before and after. -/
def SlotsReplay : (xs ys slots slots' : List (Option Json)) → Prop
  | x :: xs, y :: ys, slots, slots' =>
    MemberReplay x y (slots.headD none) (slots'.headD none) ∧
      SlotsReplay xs ys slots.tail slots'.tail
  | _, _, _, _ => True

/-- The steps for fields are replayed if those for each of them are. -/
theorem slotsReplay_map {x y look look' : String → Option Json} :
    ∀ {keys : List String}, (∀ key ∈ keys, MemberReplay (x key) (y key) (look key) (look' key)) →
      SlotsReplay (keys.map x) (keys.map y) (keys.map look) (keys.map look')
  | [], _ => trivial
  | key :: _, h =>
    ⟨h key List.mem_cons_self, slotsReplay_map fun k hk => h k (List.mem_cons_of_mem _ hk)⟩

/-- Without steps for a field, what is found for it stays. -/
theorem memberReplay_of_rel {x y : Option Json} (h : Option.Rel (fun x y => diff x y = []) x y)
    (slot : Option Json) : MemberReplay x y slot slot := by
  rcases h with hd | _
  · cases slot <;> simp [MemberReplay, hd]
  · rfl

/-- Without steps for any field, what is found for them stays. -/
theorem slotsReplay_of_rel {x y : String → Option Json} :
    ∀ {keys : List String}, (∀ key ∈ keys, Option.Rel (fun x y => diff x y = []) (x key) (y key)) →
      ∀ slots : List (Option Json), SlotsReplay (keys.map x) (keys.map y) slots slots
  | [], _, _ => trivial
  | key :: _, h, slots =>
    ⟨memberReplay_of_rel (h key List.mem_cons_self) _,
      slotsReplay_of_rel (fun k hk => h k (List.mem_cons_of_mem _ hk)) slots.tail⟩

end Patch

/-! ## Replaying by shape -/

/-- Whether replaying a change of a value of a shape on what it was read from leads to what is read
as the changed value. -/
def Shape.Replayable {α : Type} (s : Shape α) : Prop :=
  ∀ ⦃raw raw' : Json⦄ ⦃a b : α⦄, s.Reads raw a → s.Follows (some a) b →
    run? (diff (s.toJson a) (s.toJson b)) raw = some raw' → s.Reads raw' b

namespace Shape

variable {α β : Type} {s : Shape α}

/-- An integer is written as a single value, if its bounds let it be one in JSON. -/
theorem exact_integer {low high : Int} {name : String} (h : (integer low high name).Regular)
    (b : Bounded low high) : ((integer low high name).toJson b).Exact := by
  have hread : (integer low high name).Reads ((integer low high name).toJson b) b :=
    reads_toJson _ h trivial
  obtain ⟨_, hb⟩ := reads_integer_iff.1 hread
  rw [hb]
  trivial

/-- What is turned into something else is written as a single value, in a regular shape. -/
theorem exact_mapped {inner : Shape α} {into : α → β} {outOf : β → α}
    (h : (mapped inner into outOf).Regular) (b : β) :
    ((mapped inner into outOf).toJson b).Exact := by
  obtain ⟨t, ht⟩ := h.2.2.2 b
  rw [toJson, ht]
  trivial

/-- Changes of what is written as a single value, and read back from it, can be replayed. -/
theorem replayable_of_exact (hread : ∀ b, s.Reads (s.toJson b) b)
    (hexact : ∀ b, (s.toJson b).Exact) : s.Replayable := by
  intro raw raw' a b ha _ hrun
  rcases eq_or_eq_of_run?_diff (bothNested_of_exact (hexact b)) hrun with ⟨hs, rfl⟩ | rfl
  · have hw : s.toJson a = s.toJson b := eq_of_same_of_exact (hexact b) hs
    have hab : a = b := (hread a).unique (hw ▸ hread b)
    exact hab ▸ ha
  · exact hread b

/-- Changes of what is spelled out can be replayed. -/
theorem replayable_spelled (expected : String) (parse : String → Except Fault α)
    (render : α → String) : (spelled expected parse render).Replayable := by
  intro raw raw' a b ha hb hrun
  have hab : a = b := Option.some.inj hb
  have ho : (Json.str (render a)).Ordered := trivial
  simp only [toJson] at hrun
  rw [← hab, diff_self ho, run?_nil, Option.some.injEq] at hrun
  exact hrun ▸ hab ▸ ha

/-- Changes of JSON that is kept as it is can be replayed. -/
theorem replayable_json : json.Replayable := by
  intro raw raw' a b ha hb hrun
  obtain ⟨ho, rfl⟩ := reads_json_iff.1 ha
  simp only [toJson] at hrun
  rcases hb with hab | ⟨-, hbo, hz⟩
  · have hab : raw = b := Option.some.inj hab
    rw [← hab, diff_self ho, run?_nil, Option.some.injEq] at hrun
    exact reads_json_iff.2 ⟨hrun ▸ ho, hrun ▸ hab⟩
  · have hr : raw' = b := eq_of_run?_diff ho hbo (hz raw rfl) hrun
    exact reads_json_iff.2 ⟨hr ▸ hbo, hr⟩

/-- Changes of what may be missing can be replayed if those of its value can. -/
theorem replayable_nullable (hs : s.Solid) (hr : s.Regular) (h : s.Replayable) :
    s.nullable.Replayable := by
  intro raw raw' o b ha hb hrun
  rcases reads_nullable_iff.1 ha with ⟨rfl, rfl⟩ | ⟨hraw, a, hin, rfl⟩
  · cases b with
    | none =>
      have ho : Json.null.Ordered := trivial
      simp only [toJson] at hrun
      rw [diff_self ho, run?_nil, Option.some.injEq] at hrun
      exact hrun ▸ ha
    | some b =>
      have hb : s.Follows none b := hb b rfl
      have hn : bothNested .null (s.toJson b) = false := rfl
      simp only [toJson] at hrun
      rcases eq_or_eq_of_run?_diff hn hrun with ⟨hsame, -⟩ | rfl
      · have hb0 : s.toJson b = .null := Json.eq_null_of_null_same hsame
        cases eq_some_of_toJson_eq_null hs hb hb0
      · refine reads_nullable_iff.2 (.inr ⟨fun hn => ?_, b, s.reads_toJson hr hb, rfl⟩)
        cases eq_some_of_toJson_eq_null hs hb hn
  · have hna : s.toJson a ≠ .null := fun hn => hraw ((eq_null_iff_of_reads hs hin).2 hn)
    cases b with
    | none =>
      have hn : bothNested (s.toJson a) .null = false := by cases s.toJson a <;> rfl
      simp only [toJson] at hrun
      rcases eq_or_eq_of_run?_diff hn hrun with ⟨hsame, -⟩ | rfl
      · exact absurd (Json.eq_null_of_same_null hsame) hna
      · exact reads_nullable_iff.2 (.inl ⟨rfl, rfl⟩)
    | some b =>
      have hb : s.Follows (some a) b := hb b rfl
      have hread : s.Reads raw' b := h hin hb hrun
      refine reads_nullable_iff.2 (.inr ⟨?_, b, hread, rfl⟩)
      rintro rfl
      have hn := (eq_null_iff_of_reads hs hread).1 rfl
      cases eq_some_of_toJson_eq_null hs hb hn
      exact hna hn

/-! ### Arrays and dictionaries -/

/-- After the steps between two lists, each item is read as the one of the new list. -/
theorem forall₂_reads_of_itemsReplay (hr : s.Regular) (h : s.Replayable) :
    ∀ {items as bs items' : List _}, List.Forall₂ s.Reads items as →
      (∀ (i : Nat) b, bs[i]? = some b → s.Follows as[i]? b) →
      ItemsReplay (as.map s.toJson) (bs.map s.toJson) items items' →
      List.Forall₂ s.Reads items' bs
  | _, [], bs, _, _, hb, hi => by
    rw [List.map_nil, ItemsReplay] at hi
    rw [hi, List.forall₂_map_left_iff, List.forall₂_same]
    intro b hmem
    obtain ⟨i, hi⟩ := List.mem_iff_getElem?.1 hmem
    exact s.reads_toJson hr (hb i b hi)
  | _, a :: as, [], _, _, _, hi => by
    simp [ItemsReplay] at hi
    exact hi ▸ .nil
  | x :: items, a :: as, b :: bs, _, ha, hb, hi => by
    obtain ⟨hx, ha⟩ := List.forall₂_cons.1 ha
    obtain ⟨x', items', rfl, hrun, hi⟩ := hi
    exact .cons (h hx (hb 0 b rfl) hrun)
      (forall₂_reads_of_itemsReplay hr h ha (fun i => hb (i + 1)) hi)

/-- Changes of a list can be replayed if those of its items can. -/
theorem replayable_list (hr : s.Regular) (h : s.Replayable) : s.list.Replayable := by
  intro raw raw' as bs ha hb hrun
  obtain ⟨items, rfl, hf⟩ := reads_list_iff.1 ha
  simp only [toJson] at hrun
  have hl : items.length = (as.map s.toJson).length := by rw [List.length_map, hf.length_eq]
  obtain ⟨items', rfl, hi⟩ := (run?_diff_arr hl).1 hrun
  exact reads_list_iff.2 ⟨items', rfl, forall₂_reads_of_itemsReplay hr h hf hb hi⟩

/-- After the steps for a member, it is read as the new value, or is missing as that is. -/
theorem rel_reads_of_memberReplay (hr : s.Regular) (h : s.Replayable) {x x' : Option Json}
    {a b : Option α} (ha : Option.Rel s.Reads x a) (hb : ∀ b', b = some b' → s.Follows a b')
    (hm : MemberReplay (a.map s.toJson) (b.map s.toJson) x x') : Option.Rel s.Reads x' b := by
  cases ha with
  | none =>
    cases b with
    | none =>
      obtain rfl : x' = none := hm
      exact .none
    | some b =>
      obtain rfl : x' = some (s.toJson b) := hm
      exact .some (s.reads_toJson hr (hb b rfl))
  | some ha =>
    cases b with
    | none =>
      obtain rfl : x' = none := hm.2
      exact .none
    | some b =>
      obtain ⟨r, rfl, hrun⟩ := hm
      exact .some (h ha (hb b rfl) hrun)

/-- Changes of a dictionary can be replayed if those of its values can. -/
theorem replayable_dictionary (hr : s.Regular) (h : s.Replayable) :
    s.dictionary.Replayable := by
  intro raw raw' d e ha hb hrun
  obtain ⟨members, rfl, hs, hd⟩ := reads_dictionary_iff.1 ha
  simp only [toJson] at hrun
  obtain ⟨members', rfl, hs', hm⟩ :=
    (run?_diff_obj (d.sorted.map fun _ => s.toJson) (e.sorted.map fun _ => s.toJson) hs).1 hrun
  refine reads_dictionary_iff.2 ⟨members', rfl, hs', ?_⟩
  intro key
  have hm := hm key
  rw [Assoc.get?_map (fun _ => s.toJson), Assoc.get?_map (fun _ => s.toJson)] at hm
  exact rel_reads_of_memberReplay hr h (hd key) (hb key) hm

/-! ### Records -/

/-- A value that is not written is what the field reads as when it is missing. -/
theorem absent?_eq_some_of_skips {p : Presence α} (hp : p.Lawful s) {a : α}
    (h : p.skips a = true) : p.absent? = some a := by
  cases p with
  | required => cases h
  | defaulted v => cases h
  | omitted v skip => exact congrArg some ((hp.1 a).1 h).symm

/-- What may come after a value that is not written may come after none. -/
theorem follows_none_of_skips {p : Presence α} (hp : p.Lawful s) {a b : α}
    (h : p.skips a = true) (hb : s.Follows (some a) b) : s.Follows none b := by
  cases p with
  | required => cases h
  | defaulted v => cases h
  | omitted v skip =>
    rw [(hp.1 a).1 h] at hb
    exact hp.2 b hb

/-- What a missing field reads as may come after no value, if it is written. -/
theorem follows_none_of_absent? {p : Presence α} (hp : p.Lawful s) {a : α}
    (h : p.absent? = some a) (hskip : ¬ p.skips a = true) : s.Follows none a := by
  cases p with
  | required => cases h
  | defaulted v =>
    obtain rfl : v = a := Option.some.inj h
    exact hp
  | omitted v skip =>
    obtain rfl : v = a := Option.some.inj h
    exact absurd ((hp.1 v).2 rfl) hskip

/-- After the steps for a field, what is found for it is read as the new value. -/
theorem reads_slot_of_memberReplay {p : Presence α} (hp : p.Lawful s) (hr : s.Regular)
    (h : s.Replayable) {slot slot' : Option Json} {a b : α} (ha : p.Reads s slot a)
    (hb : s.Follows (some a) b)
    (hm : MemberReplay (p.written s a) (p.written s b) slot slot') : p.Reads s slot' b := by
  unfold Presence.written at hm
  by_cases hsa : p.skips a = true <;> by_cases hsb : p.skips b = true
  · rw [if_pos hsa, if_pos hsb] at hm
    have hab := (absent?_eq_some_of_skips hp hsa).symm.trans (absent?_eq_some_of_skips hp hsb)
    obtain rfl : a = b := Option.some.inj hab
    obtain rfl : slot' = slot := hm
    exact ha
  · rw [if_pos hsa, if_neg hsb] at hm
    obtain rfl : slot' = some (s.toJson b) := hm
    exact s.reads_toJson hr (follows_none_of_skips hp hsa hb)
  · rw [if_neg hsa, if_pos hsb] at hm
    obtain rfl : slot' = none := hm.2
    exact absent?_eq_some_of_skips hp hsb
  · rw [if_neg hsa, if_neg hsb] at hm
    cases slot with
    | some raw =>
      obtain ⟨raw', rfl, hrun⟩ := hm
      exact h ha hb hrun
    | none =>
      -- the missing value is one that is written, and so the change leaves it alone
      obtain ⟨hd, rfl⟩ := hm
      have hw : s.Reads (s.toJson a) a := s.reads_toJson hr (follows_none_of_absent? hp ha hsa)
      have hrun : run? (diff (s.toJson a) (s.toJson b)) (s.toJson a) = some (s.toJson a) := by
        rw [hd, run?_nil]
      obtain rfl : a = b := hw.unique (h hw hb hrun)
      exact ha

/-- Changes of a record can be replayed if those of its fields can. -/
theorem replayable_record {form : Form} {fields : Fields β} {into : β → α} {outOf : α → β}
    (hr : (record form fields into outOf).Regular)
    (h : ∀ {slots slots' : List (Option Json)} {b b' : β}, fields.Reads slots b →
      fields.Follows (some b) b' →
      SlotsReplay (fields.written b) (fields.written b') slots slots' →
      fields.Reads slots' b') :
    (record form fields into outOf).Replayable := by
  obtain ⟨hinto, hout, hf⟩ := hr
  have hnodup := hf.nodup_keys
  intro raw raw' a a' ha hb hrun
  have hb : fields.Follows (some (outOf a)) (outOf a') := hb
  obtain ⟨members, rfl⟩ | ⟨items, rfl⟩ := nested_of_reads_record ha
  · obtain ⟨ho, b, hread, rfl⟩ := reads_record_obj_iff.1 ha
    obtain ⟨members', rfl, hs', hm⟩ := (run?_diff_record_obj (Json.ordered_obj.1 ho).1).1 hrun
    rw [hout] at hb hm
    -- each known member becomes what the steps for its field make of it
    have hread' := h hread hb (by
      rw [← Fields.map_get?_sorted hnodup, ← Fields.map_get?_sorted hnodup]
      exact slotsReplay_map fun key _ => hm key)
    refine reads_record_obj_iff.2 ⟨Json.ordered_obj.2 ⟨hs', fun key x hk => ?_⟩, _, hread',
      hinto a'⟩
    by_cases hkey : key ∈ fields.keys
    · refine Fields.ordered_of_reads hread' (by rw [List.length_map, Fields.length_keys]) x ?_
      exact hk ▸ List.mem_map_of_mem hkey
    · have hkk := (memberReplay_iff_of_not_mem_keys hnodup hkey).1 (hm key)
      exact (Json.ordered_obj.1 ho).2 key x (hkk ▸ hk)
  -- a record that is given as an array is only patched by no steps at all
  · obtain ⟨ho, hl, hlen, b, hread, rfl⟩ := reads_record_arr_iff.1 ha
    obtain ⟨hd, rfl⟩ := (run?_diff_record_arr hf).1 hrun
    rw [toJson_record, toJson_record] at hd
    rw [hout] at hb hd
    have hrel := (diff_obj_eq_nil_iff (fields.sorted_sorted _) (fields.sorted_sorted _)).1 hd
    have hread' := h hread hb (by
      rw [← Fields.map_get?_sorted hnodup, ← Fields.map_get?_sorted hnodup]
      exact slotsReplay_of_rel (fun key _ => hrel key) _)
    exact reads_record_arr_iff.2 ⟨ho, hl, hlen, _, hread', hinto a'⟩

end Shape

/-! ### All shapes -/

open Shape

mutual

/-- Replaying a change of a value of a regular shape leads to what is read as the changed value. -/
theorem Shape.replayable : ∀ {α : Type} (s : Shape α), s.Regular → s.Replayable
  | _, .text, h => replayable_of_exact (fun _ => reads_toJson .text h trivial) fun _ => trivial
  | _, .flag, h => replayable_of_exact (fun _ => reads_toJson .flag h trivial) fun _ => trivial
  | _, .integer low high name, h =>
    replayable_of_exact (fun _ => reads_toJson (.integer low high name) h trivial) (exact_integer h)
  | _, .json, _ => replayable_json
  | _, .spelled expected parse render, _ => replayable_spelled expected parse render
  | _, .list item, h => replayable_list h (Shape.replayable item h)
  | _, .dictionary item, h => replayable_dictionary h (Shape.replayable item h)
  | _, .nullable inner, h => replayable_nullable h.1 h.2 (Shape.replayable inner h.2)
  | _, .record _ fields _ _, h =>
    replayable_record h fun hb hb' => Fields.reads_of_slotsReplay fields h.2.2 hb hb'
  | _, .mapped inner into outOf, h =>
    replayable_of_exact (fun _ => reads_toJson (.mapped inner into outOf) h trivial)
      (exact_mapped h)

/-- After the steps for all fields, what is found for them is read as the new values. -/
theorem Fields.reads_of_slotsReplay : ∀ {β : Type} (fields : Fields β), fields.Regular →
    ∀ {slots slots' : List (Option Json)} {b b' : β}, fields.Reads slots b →
      fields.Follows (some b) b' →
      SlotsReplay (fields.written b) (fields.written b') slots slots' →
      fields.Reads slots' b'
  | _, .done, _, _, _, _, _, _, _, _ => trivial
  | _, .field _ _ s rest, h, _, _, _, _, hb, hb', hr =>
    ⟨reads_slot_of_memberReplay h.2.2.1 h.2.2.2.1 (Shape.replayable s h.2.2.2.1) hb.1 hb'.1 hr.1,
      Fields.reads_of_slotsReplay rest h.2.2.2.2 hb.2 hb'.2 hr.2⟩

end

end TopologyHooks
