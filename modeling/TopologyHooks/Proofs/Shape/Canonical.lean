import TopologyHooks.Proofs.Shape.RoundTrip

/-!
# Reading and writing again

* `Shape.Legible` — whether everything that is spelled out in a value is read from its spelling.
* `Shape.readsBack_of_reads` — whatever was read as a legible value of a regular shape is read
  back from what is written for it, in whatever form it was given before.
-/

set_option autoImplicit false

namespace TopologyHooks

open Shape

mutual

/-- Whether everything that is spelled out in a value is read from its spelling. -/
def Shape.Legible : {α : Type} → Shape α → α → Prop
  | _, .spelled _ parse render, a => parse (render a) = .ok a
  | _, .list item, as => ∀ a ∈ as, Shape.Legible item a
  | _, .dictionary item, d => ∀ key a, d.get? key = some a → Shape.Legible item a
  | _, .nullable inner, o => ∀ a, o = some a → Shape.Legible inner a
  | _, .record _ fields _ outOf, a => Fields.Legible fields (outOf a)
  | _, _, _ => True

/-- Whether everything that is spelled out in the fields of a record is read from its spelling. -/
def Fields.Legible : {β : Type} → Fields β → β → Prop
  | _, .done, _ => True
  | _, .field _ _ s rest, b => Shape.Legible s b.1 ∧ Fields.Legible rest b.2

end

/-- A field is read back if it was found and read, or if it was missing. -/
theorem Presence.Lawful.readsBack_of_reads {α : Type} {p : Presence α} {s : Shape α}
    (hp : p.Lawful s) (hs : s.Regular) {slot : Option Json} {a : α} (ha : p.Reads s slot a)
    (h : ∀ raw, s.Reads raw a → s.ReadsBack a) : p.ReadsBack s a := by
  cases slot with
  | some raw => exact hp.readsBack (h raw ha)
  | none =>
    rcases hp.skips_or_readsBack hs ha with hskip | hback
    · rw [ReadsBack, written, if_pos hskip]
      exact ha
    · exact hp.readsBack hback

mutual

/-- Whatever was read as a legible value is read back. -/
theorem Shape.readsBack_of_reads : ∀ {α : Type} (s : Shape α), s.Regular → ∀ {raw : Json} {a : α},
    s.Reads raw a → s.Legible a → s.ReadsBack a
  | _, .text, _, _, a, _, _ => readsBack_text a
  | _, .flag, _, _, a, _, _ => readsBack_flag a
  | _, .integer low high name, h, _, a, _, _ => readsBack_integer h.1 h.2 name a
  | _, .json, _, _, a, ha, _ => by
    obtain ⟨ho, rfl⟩ := reads_json_iff.1 ha
    exact readsBack_json_iff.2 ho
  | _, .spelled _ _ _, _, _, a, _, hl => readsBack_spelled hl
  | _, .list item, h, _, as, ha, hl => by
    refine readsBack_list_iff.2 fun a hmem => ?_
    obtain ⟨raw, hraw⟩ := exists_of_reads_list ha a hmem
    exact Shape.readsBack_of_reads item h hraw (hl a hmem)
  | _, .dictionary item, h, _, d, ha, hl => by
    refine readsBack_dictionary fun key a hk => ?_
    obtain ⟨raw, hraw⟩ := exists_of_reads_dictionary ha hk
    exact Shape.readsBack_of_reads item h hraw (hl key a hk)
  | _, .nullable inner, h, _, o, ha, hl => by
    refine readsBack_nullable fun a ho => ?_
    subst ho
    rcases reads_nullable_iff.1 ha with ⟨-, hnone⟩ | ⟨hnull, a', hinner, hsome⟩
    · cases hnone
    · obtain rfl := Option.some.inj hsome
      exact ⟨fun hn => hnull ((eq_null_iff_of_reads h.1 hinner).2 hn),
        Shape.readsBack_of_reads inner h.2 hinner (hl _ rfl)⟩
  | _, .record form fields into outOf, h, _, a, ha, hl => by
    obtain ⟨slots, b, hb, rfl⟩ := exists_reads_of_reads_record ha
    have hout : outOf (into b) = b := h.2.1 b
    refine readsBack_record h.2.2.nodup_keys (h.1 _) ?_
    rw [hout]
    exact Fields.readsBack_of_reads fields h.2.2 hb (hout ▸ hl)
  | _, .mapped inner into outOf, h, _, b, _, _ =>
    readsBack_mapped (h.2.1 b) (Shape.reads_toJson inner h.1 (h.2.2.1 b))

/-- Fields that were read, with everything legible that is spelled out, are read back. -/
theorem Fields.readsBack_of_reads : ∀ {β : Type} (fields : Fields β), fields.Regular →
    ∀ {slots : List (Option Json)} {b : β}, fields.Reads slots b → fields.Legible b →
      fields.ReadsBack b
  | _, .done, _, _, _, _, _ => trivial
  | _, .field _ _ s rest, h, _, _, hb, hl =>
    ⟨h.2.2.1.readsBack_of_reads h.2.2.2.1 hb.1 fun _ ha =>
        Shape.readsBack_of_reads s h.2.2.2.1 ha hl.1,
      Fields.readsBack_of_reads rest h.2.2.2.2 hb.2 hl.2⟩

end

end TopologyHooks
