import TopologyHooks.Proofs.Shape.ReadBack
import TopologyHooks.Proofs.Shape.Regular

/-!
# Reading what was written

* `Shape.reads_toJson` — what is written for a value is read as that value, unless it holds what
  can get lost.
* `Shape.ordered_toJson` — whatever was read is written in order.
-/

set_option autoImplicit false

namespace TopologyHooks

/-! ## Null -/

namespace Shape

variable {α β : Type}

/-- In a solid shape, only what was there before may be written as null. -/
theorem eq_some_of_toJson_eq_null {s : Shape α} (hs : s.Solid) {o : Option α} {b : α}
    (hb : s.Follows o b) (h : s.toJson b = .null) : o = some b := by
  cases s <;> simp only [Solid, toJson, Json.object, reduceCtorEq, Json.ofInt] at hs h
  case json => exact hb.resolve_right fun hn => hn.1 h

/-- What is written as null was read from null. -/
theorem eq_null_iff_of_reads {s : Shape α} (hs : s.Solid) {raw : Json} {a : α}
    (h : s.Reads raw a) : raw = .null ↔ s.toJson a = .null := by
  cases s with
  | text => simp [reads_text_iff.1 h, toJson]
  | flag => simp [reads_flag_iff.1 h, toJson]
  | integer low high name =>
    obtain ⟨_, rfl⟩ := reads_integer_iff.1 h
    simp [toJson, Json.ofInt]
  | json =>
    obtain ⟨-, rfl⟩ := reads_json_iff.1 h
    simp [toJson]
  | spelled expected parse render =>
    obtain ⟨_, rfl, -⟩ := reads_spelled_iff.1 h
    simp [toJson]
  | list item =>
    obtain ⟨_, rfl, -⟩ := reads_list_iff.1 h
    simp [toJson]
  | dictionary item =>
    obtain ⟨_, rfl, -⟩ := reads_dictionary_iff.1 h
    simp [toJson]
  | record form fields into outOf =>
    rw [toJson_record]
    obtain ⟨_, rfl⟩ | ⟨_, rfl⟩ := nested_of_reads_record h <;> simp
  | _ => exact hs.elim

end Shape

/-! ## Fields -/

/-- The value of a lawful field is read back if it is so by itself. -/
theorem Presence.Lawful.readsBack {α : Type} {p : Presence α} {s : Shape α} (hp : p.Lawful s)
    {b : α} (hb : s.ReadsBack b) : p.ReadsBack s b := by
  cases p with
  | required => exact readsBack_required hb
  | defaulted v => exact readsBack_defaulted hb
  | omitted v skip => exact readsBack_omitted (hp.1 b).1 fun _ => hb

/-! ## Round trips -/

open Shape

mutual

/-- What is written for a value is read as that value. -/
theorem Shape.reads_toJson : ∀ {α : Type} (s : Shape α), s.Regular → ∀ {b : α},
    s.Follows none b → s.Reads (s.toJson b) b
  | _, .text, _, b, _ => readsBack_text b
  | _, .flag, _, b, _ => readsBack_flag b
  | _, .integer low high name, h, b, _ => readsBack_integer h.1 h.2 name b
  | _, .json, _, b, hb => readsBack_json_iff.2 (hb.resolve_left (by simp)).2.1
  | _, .spelled _ _ _, _, b, hb => by cases (show none = some b from hb)
  | _, .list item, h, bs, hb => by
    refine readsBack_list_iff.2 fun b hmem => ?_
    obtain ⟨i, hi⟩ := List.mem_iff_getElem?.1 hmem
    exact Shape.reads_toJson item h (hb i b hi)
  | _, .dictionary item, h, d, hb =>
    readsBack_dictionary fun key b hk => Shape.reads_toJson item h (hb key b hk)
  | _, .nullable inner, h, o, hb => by
    refine readsBack_nullable fun b ho => ?_
    have hb : inner.Follows none b := hb b ho
    refine ⟨fun hn => ?_, Shape.reads_toJson inner h.2 hb⟩
    cases eq_some_of_toJson_eq_null h.1 hb hn
  | _, .record form fields into outOf, h, b, hb =>
    readsBack_record h.2.2.nodup_keys (h.1 b) (Fields.reads_written fields h.2.2 hb)
  | _, .mapped inner into outOf, h, b, _ =>
    readsBack_mapped (h.2.1 b) (Shape.reads_toJson inner h.1 (h.2.2.1 b))

/-- Values of fields that may come after none are read from what is written for them. -/
theorem Fields.reads_written : ∀ {β : Type} (fields : Fields β), fields.Regular → ∀ {b : β},
    fields.Follows none b → fields.Reads (fields.written b) b
  | _, .done, _, _, _ => trivial
  | _, .field _ _ s rest, h, _, hb =>
    ⟨h.2.2.1.readsBack (Shape.reads_toJson s h.2.2.2.1 hb.1),
      Fields.reads_written rest h.2.2.2.2 hb.2⟩

end

/-- The value of a missing field is left out in writing, or is read back. -/
theorem Presence.Lawful.skips_or_readsBack {α : Type} {p : Presence α} {s : Shape α}
    (hp : p.Lawful s) (hs : s.Regular) {a : α} (ha : p.absent? = some a) :
    p.skips a = true ∨ s.ReadsBack a := by
  cases p with
  | required => cases ha
  | defaulted v =>
    obtain rfl : v = a := Option.some.inj ha
    exact .inr (s.reads_toJson hs hp)
  | omitted v skip =>
    obtain rfl : v = a := Option.some.inj ha
    exact .inl ((hp.1 v).2 rfl)

/-! ## Order -/

/-- What is written for a field that was read is ordered if its value is written so. -/
theorem Presence.ordered_of_mem_written {α : Type} {p : Presence α} {s : Shape α}
    (hp : p.Lawful s) (hs : s.Regular) {slot : Option Json} {a : α} (ha : p.Reads s slot a)
    (ho : ∀ raw, s.Reads raw a → (s.toJson a).Ordered) {x : Json} (hx : p.written s a = some x) :
    x.Ordered := by
  unfold Presence.written at hx
  split at hx
  · simp at hx
  · rename_i hskip
    rw [← Option.some.inj hx]
    cases slot with
    | some raw => exact ho raw ha
    | none => exact ((hp.skips_or_readsBack hs ha).resolve_left hskip).1

mutual

/-- Whatever was read is written in order. -/
theorem Shape.ordered_toJson : ∀ {α : Type} (s : Shape α), s.Regular → ∀ {raw : Json} {a : α},
    s.Reads raw a → (s.toJson a).Ordered
  | _, .text, _, _, _, _ => trivial
  | _, .flag, _, _, _, _ => trivial
  | _, .integer low high name, _, _, _, _ => by simp [toJson, Json.ofInt, Json.Ordered]
  | _, .json, _, _, _, ha => by
    obtain ⟨ho, rfl⟩ := reads_json_iff.1 ha
    exact ho
  | _, .spelled _ _ _, _, _, _, _ => by simp [toJson, Json.Ordered]
  | _, .list item, h, _, as, ha => by
    rw [toJson, Json.ordered_arr]
    intro x hx
    obtain ⟨a, hmem, rfl⟩ := List.mem_map.1 hx
    obtain ⟨raw, hraw⟩ := exists_of_reads_list ha a hmem
    exact Shape.ordered_toJson item h hraw
  | _, .dictionary item, h, _, d, ha => by
    rw [toJson]
    refine Json.ordered_obj.2 ⟨d.sorted.map fun _ => item.toJson, ?_⟩
    intro key x hx
    rw [Assoc.get?_map (fun _ => item.toJson)] at hx
    obtain ⟨a, hk, rfl⟩ := Option.map_eq_some_iff.1 hx
    obtain ⟨raw, hraw⟩ := exists_of_reads_dictionary ha hk
    exact Shape.ordered_toJson item h hraw
  | _, .nullable inner, h, _, o, ha => by
    rcases reads_nullable_iff.1 ha with ⟨-, rfl⟩ | ⟨-, a, hinner, rfl⟩
    · simp [toJson, Json.Ordered]
    · rw [toJson]
      exact Shape.ordered_toJson inner h.2 hinner
  | _, .record form fields into outOf, h, raw, a, ha => by
    obtain ⟨slots, b, hb, rfl⟩ := exists_reads_of_reads_record ha
    rw [toJson_record, h.2.1]
    exact Fields.ordered_sorted h.2.2.nodup_keys (Fields.ordered_written fields h.2.2 hb)
  | _, .mapped inner into outOf, h, _, b, _ => by
    obtain ⟨t, ht⟩ := h.2.2.2 b
    rw [toJson, ht]
    trivial

/-- What is written for fields that were read is ordered. -/
theorem Fields.ordered_written : ∀ {β : Type} (fields : Fields β), fields.Regular →
    ∀ {slots : List (Option Json)} {b : β}, fields.Reads slots b →
      ∀ x, some x ∈ fields.written b → x.Ordered
  | _, .done, _, _, _, _, _, hx => by simp [Fields.written] at hx
  | _, .field _ _ s rest, h, _, _, hb, x, hx => by
    rcases List.mem_cons.1 hx with hx | hx
    · exact Presence.ordered_of_mem_written h.2.2.1 h.2.2.2.1 hb.1
        (fun raw => Shape.ordered_toJson s h.2.2.2.1) hx.symm
    · exact Fields.ordered_written rest h.2.2.2.2 hb.2 x hx

end

end TopologyHooks
