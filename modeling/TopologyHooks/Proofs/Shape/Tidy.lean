import TopologyHooks.Message.GeneratePatches
import TopologyHooks.Proofs.Shape.Reading

/-!
# What is read from a text is in order

* `Shape.Tidy` — whether all JSON that a value keeps as it is is ordered.
* `Shape.tidy_of_read` — whatever is read from a source of ordered JSON is tidy.
* `GeneratePatches.ordered_of_ofText` — the objects of a request that is read from a text are
  ordered.
-/

set_option autoImplicit false

namespace TopologyHooks

/-! ## Tidy values -/

mutual

/-- Whether all JSON that a value keeps as it is is ordered. -/
def Shape.Tidy : {α : Type} → Shape α → α → Prop
  | _, .json, j => j.Ordered
  | _, .list item, as => ∀ a ∈ as, Shape.Tidy item a
  | _, .dictionary item, d => ∀ e ∈ d.entries, Shape.Tidy item e.2
  | _, .nullable inner, o => ∀ a, o = some a → Shape.Tidy inner a
  | _, .record _ fields into _, a => ∃ b, a = into b ∧ Fields.Tidy fields b
  | _, .flattened _ own base into _, a =>
    ∃ b c, a = into (b, c) ∧ Fields.Tidy own b ∧ Fields.Tidy base c
  | _, .mapped inner into _, a => ∃ b, a = into b ∧ Shape.Tidy inner b
  | _, .deferred level _, a => ∃ depth, Shape.Tidy (level depth) a
  | _, .described _ inner, a => Shape.Tidy inner a
  | _, .text, _ => True
  | _, .flag, _ => True
  | _, .integer _ _ _, _ => True
  | _, .real, _ => True
  | _, .spelled _ _ _, _ => True
  | _, .choice _ _, _ => True

/-- Whether all fields are tidy or what they are when they are missing. -/
def Fields.Tidy : {β : Type} → Fields β → β → Prop
  | _, .done, _ => True
  | _, .field _ p s rest, b => (p.absent? = some b.1 ∨ Shape.Tidy s b.1) ∧ Fields.Tidy rest b.2

end

/-- Whether a source yields ordered JSON. -/
def Source.Tidy {ν : Type} (src : Source ν) : Prop := ∀ n j, src.json n = .ok j → j.Ordered

/-- A text yields ordered JSON. -/
theorem Source.tidy_text : Source.text.Tidy := fun d _ h => Json.ordered_of_document d h

namespace Reading

variable {ν α β : Type} {read : ν → Except Fault α}

/-! ## Where results come from -/

/-- A value that comes through the end of its text is the one that was read. -/
theorem closing_eq_ok {close : Option SyntaxError} {a b : α} (h : closing close a = .ok b) :
    a = b := by
  cases close with
  | none => exact Except.ok.inj h
  | some e => cases h

/-- Each item of a list that was read was read from something. -/
theorem exists_of_mem_readItems {close : Option SyntaxError} {xs : List ν} {as : List α}
    (h : readItems read close xs = .ok as) : ∀ a ∈ as, ∃ x, read x = .ok a := by
  induction xs generalizing as with
  | nil => simp [← closing_eq_ok h]
  | cons x xs ih =>
    rw [readItems] at h
    split at h
    · cases h
    · rename_i a ha
      split at h
      · cases h
      · rename_i rest hrest
        rw [← Except.ok.inj h]
        exact List.forall_mem_cons.2 ⟨⟨x, ha⟩, ih hrest⟩

/-- Each entry that was read was read from something. -/
theorem exists_of_mem_readEntries {close : Option SyntaxError} {xs : List (String × ν)}
    {es : List (String × α)} (h : readEntries read close xs = .ok es) :
    ∀ e ∈ es, ∃ x, read x = .ok e.2 := by
  induction xs generalizing es with
  | nil => simp [← closing_eq_ok h]
  | cons x xs ih =>
    obtain ⟨k, x⟩ := x
    rw [readEntries] at h
    split at h
    · cases h
    · rename_i a ha
      split at h
      · cases h
      · rename_i rest hrest
        rw [← Except.ok.inj h]
        exact List.forall_mem_cons.2 ⟨⟨x, ha⟩, ih hrest⟩

/-- The last value for a field was read from something, if the first one was. -/
theorem exists_of_readLast {a b : α} {found : List (Nat × ν)} (h : readLast read a found = .ok b)
    (ha : ∃ x, read x = .ok a) : ∃ x, read x = .ok b := by
  induction found generalizing a with
  | nil => exact Except.ok.inj h ▸ ha
  | cons e rest ih =>
    obtain ⟨i, x⟩ := e
    rw [readLast] at h
    split at h
    · cases h
    · rename_i c hc
      exact ih h ⟨x, hc⟩

/-- A field that was read has the value of a missing one, or was read from something. -/
theorem exists_of_readField {lenient : Bool} {total : Nat} {key : String} {p : Presence α}
    {members : List (String × ν)} {a : α}
    (h : readField lenient total key p read members = .ok a) :
    p.absent? = some a ∨ ∃ x, read x = .ok a := by
  unfold readField at h
  split at h
  · split at h
    · rename_i b hb
      exact .inl (Except.ok.inj h ▸ hb)
    · cases h
  · rename_i i x more _
    split at h
    · cases h
    · rename_i b hb
      split at h
      · exact .inr (exists_of_readLast h ⟨x, hb⟩)
      · split at h
        · exact .inr ⟨x, Except.ok.inj h ▸ hb⟩
        · cases h

/-- A result that nothing bars is the result itself. -/
theorem ok_of_barring {other : Option (Nat × Fault)} {r : Placed α} {a : α}
    (h : barring other r = .ok a) : r = .ok a := by
  cases other <;> cases r <;> simp_all [barring]

end Reading

/-! ## Reading -/

open Reading

mutual

/-- Whatever is read from a source of ordered JSON is tidy. -/
theorem Shape.tidy_of_read {ν : Type} : ∀ {src : Source ν}, src.Tidy → ∀ {α : Type} (s : Shape α)
    {n : ν} {a : α}, s.read src n = .ok a → s.Tidy a
  | _, _, _, .text, _, _, _ => trivial
  | _, _, _, .flag, _, _, _ => trivial
  | _, _, _, .integer _ _ _, _, _, _ => trivial
  | _, _, _, .real, _, _, _ => trivial
  | _, _, _, .spelled _ _ _, _, _, _ => trivial
  | _, _, _, .choice _ _, _, _, _ => trivial
  | src, hsrc, _, .json, n, a, h => by
    rw [Shape.read] at h
    exact hsrc n a (mapError_eq_ok_iff.1 h)
  | _, hsrc, _, .list item, n, as, h => by
    rw [Shape.read] at h
    split at h
    · intro a ha
      obtain ⟨x, hx⟩ := exists_of_mem_readItems h a ha
      exact Shape.tidy_of_read hsrc item hx
    · cases h
  | _, hsrc, _, .dictionary item, n, d, h => by
    rw [Shape.read] at h
    split at h
    · obtain ⟨es, hes, rfl⟩ := map_eq_ok_iff.1 h
      intro e he
      have hmem : e ∈ es := (Assoc.mem_insertAll he).resolve_left List.not_mem_nil
      obtain ⟨x, hx⟩ := exists_of_mem_readEntries hes e hmem
      exact Shape.tidy_of_read hsrc item hx
    · cases h
  | _, hsrc, _, .nullable inner, n, o, h => by
    intro a ha
    rw [Shape.read] at h
    split at h
    · cases (Except.ok.inj h).trans ha
    · cases h
    · obtain ⟨b, hb, rfl⟩ := map_eq_ok_iff.1 h
      exact Option.some.inj ha ▸ Shape.tidy_of_read hsrc inner hb
  | src, hsrc, _, .record form fields into outOf, n, a, h => by
    rw [Shape.read] at h
    split at h
    · obtain ⟨b, hb, rfl⟩ := map_eq_ok_iff.1 h
      exact ⟨b, rfl, Fields.tidy_of_collect hsrc fields (ok_of_barring hb)⟩
    · split at h
      · cases h
      · simp only at h
        split at h
        · cases h
        · rename_i b left hb
          split at h
          · cases h
          · exact ⟨b, (Except.ok.inj h).symm, Fields.tidy_of_positional hsrc fields hb⟩
    · cases h
  | src, hsrc, _, .flattened form own base into outOf, n, a, h => by
    rw [Shape.read] at h
    split at h
    · simp only at h
      split at h
      · cases h
      · rename_i b hb
        split at h
        · cases h
        · rename_i c hc
          -- what the own fields leave over is read from a copy of the same JSON
          have hbuffered : src.buffered.Tidy := hsrc
          exact ⟨b, c, (Except.ok.inj h).symm, Fields.tidy_of_collect hsrc own (ok_of_barring hb),
            Fields.tidy_of_collect hbuffered base (ok_of_barring hc)⟩
    · cases h
  | _, hsrc, _, .mapped inner into outOf, n, a, h => by
    rw [Shape.read] at h
    obtain ⟨b, hb, rfl⟩ := map_eq_ok_iff.1 h
    exact ⟨b, rfl, Shape.tidy_of_read hsrc inner hb⟩
  | src, hsrc, _, .deferred level height, n, a, h => by
    rw [Shape.read] at h
    exact ⟨src.depth n, Shape.tidy_of_read hsrc (level (src.depth n)) h⟩
  | _, hsrc, _, .described doc inner, n, a, h => by
    rw [Shape.read] at h
    exact Shape.tidy_of_read hsrc inner h

/-- Fields that are read from the members of an object are tidy. -/
theorem Fields.tidy_of_collect {ν : Type} : ∀ {src : Source ν}, src.Tidy → ∀ {β : Type}
    (fields : Fields β) {lenient : Bool} {total : Nat} {members : List (String × ν)} {b : β},
    fields.collect src lenient total members = .ok b → fields.Tidy b
  | _, _, _, .done, _, _, _, _, _ => trivial
  | _, hsrc, _, .field key p s rest, _, _, _, _, h => by
    rw [Fields.collect, both_eq_ok_iff] at h
    refine ⟨(exists_of_readField h.1).imp_right ?_, Fields.tidy_of_collect hsrc rest h.2⟩
    rintro ⟨x, hx⟩
    exact Shape.tidy_of_read hsrc s hx

/-- Fields that are read from the items of an array are tidy. -/
theorem Fields.tidy_of_positional {ν : Type} : ∀ {src : Source ν}, src.Tidy → ∀ {β : Type}
    (fields : Fields β) {short : Nat → Fault} {index : Nat} {close : Option SyntaxError}
    {items left : List ν} {b : β},
    fields.positional src short index close items = .ok (b, left) → fields.Tidy b
  | _, _, _, .done, _, _, _, _, _, _, _ => trivial
  | _, hsrc, _, .field key p s rest, short, index, close, items, left, b, h => by
    unfold Fields.positional at h
    simp only at h
    split at h
    · cases h
    · rename_i a ha
      split at h
      · cases h
      · rename_i c more hc
        cases h
        refine ⟨?_, Fields.tidy_of_positional hsrc rest hc⟩
        split at ha
        · exact .inr (Shape.tidy_of_read hsrc s ha)
        · split at ha
          · cases ha
          · rename_i hp
            exact .inl (Except.ok.inj ha ▸ hp)
          · cases ha

end

/-- The objects of a request that is read from a text are ordered. -/
theorem GeneratePatches.ordered_of_ofText {text : String} {request : Request}
    (h : Request.shape.ofText text = .ok request) :
    ∀ item ∈ request.items, item.object.Ordered := by
  unfold Shape.ofText at h
  split at h
  split at h
  · cases h
  · rename_i r hr
    obtain rfl := closing_eq_ok h
    obtain ⟨b, rfl, -, -, -, -, hitems, -⟩ := Request.shape.tidy_of_read Source.tidy_text hr
    obtain ⟨version, kind, settings, bindings, items, rest⟩ := b
    intro item hitem
    rcases hitems with hnone | hitems
    · obtain rfl : [] = items := Option.some.inj hnone
      cases hitem
    · obtain ⟨c, rfl, -, -, hobject, -⟩ := hitems item hitem
      exact hobject.resolve_left (by simp [Presence.absent?])

end TopologyHooks
