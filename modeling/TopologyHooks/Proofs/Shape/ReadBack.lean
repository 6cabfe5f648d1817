import TopologyHooks.Proofs.Shape.Writing

/-!
# Values that are read back

`Shape.ReadsBack` says that a value is read from what is written for it. There is one lemma for
every kind of shape, which asks for it of the parts of a value.

Two things can go wrong on the way. A part that is written as null is missing for the reader
(`Shape.readsBack_nullable`), and a field that is left out is read as its default
(`Presence.readsBack_omitted`).
-/

set_option autoImplicit false

namespace TopologyHooks

/-- Whether a value is read from what is written for it. -/
def Shape.ReadsBack {α : Type} (s : Shape α) (a : α) : Prop := s.Reads (s.toJson a) a

/-- Whether the value of a field is read from what is written for it. -/
def Presence.ReadsBack {α : Type} (p : Presence α) (s : Shape α) (a : α) : Prop :=
  p.Reads s (p.written s a) a

/-- Whether the values of the fields of a record are read from what is written for them. -/
def Fields.ReadsBack {β : Type} (fields : Fields β) (b : β) : Prop :=
  fields.Reads (fields.written b) b

variable {α β : Type}

/-- A value that is read from what is written for it is what reading that gives. -/
theorem Shape.ReadsBack.ofJson {s : Shape α} {a : α} (h : s.ReadsBack a) :
    s.ofJson (s.toJson a) = .ok a :=
  h.2

/-! ## Fields -/

namespace Presence

variable {s : Shape α} {a : α}

/-- The value of a required field is read back as it is by itself. -/
theorem readsBack_required (h : s.ReadsBack a) : required.ReadsBack s a := h

/-- The value of a field with a default is read back as it is by itself. -/
theorem readsBack_defaulted {value : α} (h : s.ReadsBack a) : (defaulted value).ReadsBack s a := h

/-- A field that is left out is read as its default. -/
theorem readsBack_omitted {value : α} {skip : α → Bool} (hskip : skip a = true → a = value)
    (h : skip a = false → s.ReadsBack a) : (omitted value skip).ReadsBack s a := by
  unfold ReadsBack written
  cases hs : skip a with
  | true =>
    rw [skips, if_pos hs]
    exact congrArg some (hskip hs).symm
  | false =>
    rw [skips, if_neg (by simp [hs])]
    exact h hs

end Presence

namespace Fields

/-- The values of fields are read back exactly if the first one is and the others are. -/
theorem readsBack_field_iff {key : String} {p : Presence α} {s : Shape α} {rest : Fields β}
    {b : α × β} : (field key p s rest).ReadsBack b ↔ p.ReadsBack s b.1 ∧ rest.ReadsBack b.2 :=
  Iff.rfl

/-- Whatever fields were read from is ordered. -/
theorem ordered_of_reads : ∀ {β : Type} {fields : Fields β} {slots : List (Option Json)} {b : β},
    fields.Reads slots b → slots.length ≤ fields.count → ∀ x, some x ∈ slots → x.Ordered
  | _, _, [], _, _, _, _, hx => by simp at hx
  | _, .done, _ :: _, _, _, hl, _, _ => by simp [count] at hl
  | _, .field _ p s rest, slot :: slots, b, h, hl, x, hx => by
    rcases List.mem_cons.1 hx with rfl | hx
    · exact Shape.Reads.ordered h.1
    · exact ordered_of_reads h.2 (Nat.le_of_succ_le_succ hl) x hx

end Fields

/-! ## Shapes -/

namespace Shape

/-- Every text is read back. -/
theorem readsBack_text (a : String) : text.ReadsBack a := reads_text_iff.2 rfl

/-- Every truth value is read back. -/
theorem readsBack_flag (a : Bool) : flag.ReadsBack a := reads_flag_iff.2 rfl

/-- An integer is read back if its bounds are among those of JSON numbers. -/
theorem readsBack_integer {low high : Int} (hlow : -9223372036854775808 ≤ low)
    (hhigh : high < 18446744073709551616) (name : String) (a : Bounded low high) :
    (integer low high name).ReadsBack a := by
  have hr : -9223372036854775808 ≤ a.val ∧ a.val < 18446744073709551616 := by
    have := a.bounds
    omega
  refine reads_integer_iff.2 ⟨hr, ?_⟩
  rw [toJson, Json.ofInt, Number.ofInt, dif_pos hr]

/-- JSON that is kept as it is is read back exactly if it is ordered. -/
@[simp] theorem readsBack_json_iff {a : Json} : json.ReadsBack a ↔ a.Ordered := by
  rw [ReadsBack, toJson, reads_json_iff, and_iff_left rfl]

/-- What is spelled out is read back if it is read from its spelling. -/
theorem readsBack_spelled {expected : String} {parse : String → Except Fault α}
    {render : α → String} {a : α} (h : parse (render a) = .ok a) :
    (spelled expected parse render).ReadsBack a :=
  reads_spelled_iff.2 ⟨render a, by rw [toJson], h⟩

/-- A list is read back exactly if each of its items is. -/
@[simp] theorem readsBack_list_iff {item : Shape α} {as : List α} :
    item.list.ReadsBack as ↔ ∀ a ∈ as, item.ReadsBack a := by
  rw [ReadsBack, toJson, reads_list_iff]
  simp only [Json.arr.injEq, exists_eq_left', List.forall₂_map_left_iff, List.forall₂_same]
  rfl

/-- A dictionary is read back if each of its values is. -/
theorem readsBack_dictionary {item : Shape α} {d : Dictionary α}
    (h : ∀ key a, d.get? key = some a → item.ReadsBack a) : item.dictionary.ReadsBack d := by
  refine reads_dictionary_iff.2 ⟨_, by rw [toJson], d.sorted.map fun _ => item.toJson, ?_⟩
  intro key
  rw [Assoc.get?_map (fun _ => item.toJson)]
  have hread := h key
  unfold Dictionary.get? at hread ⊢
  cases hk : Assoc.get? key d.entries with
  | none => exact .none
  | some a => exact .some (hread a hk)

/-- A part that may be missing is read back unless it is written as null. -/
theorem readsBack_nullable {inner : Shape α} {o : Option α}
    (h : ∀ a, o = some a → inner.toJson a ≠ .null ∧ inner.ReadsBack a) :
    inner.nullable.ReadsBack o := by
  refine reads_nullable_iff.2 ?_
  cases o with
  | none => exact .inl ⟨by rw [toJson], rfl⟩
  | some a =>
    rw [toJson]
    obtain ⟨hnull, ha⟩ := h a rfl
    exact .inr ⟨hnull, a, ha, rfl⟩

/-- A record is read back if its fields are, and make up the value again. -/
theorem readsBack_record {form : Form} {fields : Fields β} {into : β → α} {outOf : α → β} {a : α}
    (hnodup : fields.keys.Nodup) (hinto : into (outOf a) = a) (h : fields.ReadsBack (outOf a)) :
    (record form fields into outOf).ReadsBack a := by
  rw [ReadsBack, toJson_record]
  refine reads_record_obj_iff.2 ⟨?_, outOf a, ?_, hinto⟩
  · exact Fields.ordered_sorted hnodup
      (Fields.ordered_of_reads h (Nat.le_of_eq (Fields.length_written fields _)))
  · rwa [Fields.map_get?_sorted hnodup]

/-- A value that is written as another one is read back if that is, and is turned into the value
again. -/
theorem readsBack_mapped {inner : Shape α} {into : α → β} {outOf : β → α} {b : β}
    (hinto : into (outOf b) = b) (h : inner.ReadsBack (outOf b)) :
    (mapped inner into outOf).ReadsBack b := by
  rw [ReadsBack, toJson]
  exact reads_mapped_iff.2 ⟨outOf b, h, hinto⟩

/-- A value of a nested shape is read back exactly if the level of its own height writes what the
level of the JSON's depth reads. -/
theorem readsBack_deferred_iff {level : Nat → Shape α} {height : α → Nat} {a : α} :
    (deferred level height).ReadsBack a ↔
      (level ((level (height a)).toJson a).depth).Reads ((level (height a)).toJson a) a := by
  rw [ReadsBack, toJson, reads_deferred_iff]

/-- One of some named values is read back if its name stands for it. -/
theorem readsBack_choice {values : List (String × α)} {name : α → String} {a : α}
    (h : Assoc.get? (name a) values = some a) : (choice values name).ReadsBack a := by
  rw [ReadsBack, toJson]
  refine ⟨trivial, ?_⟩
  simp [ofJson, read, Reading.readChoice, Reading.pick, Source.value, Source.viewValue, h]

end Shape

/-! ## Usual shapes and fields -/

namespace Shape

attribute [simp] readsBack_text readsBack_flag

/-- A text is written as itself. -/
@[simp] theorem toJson_text (a : String) : text.toJson a = .str a := by rw [toJson]

/-- A truth value is written as itself. -/
@[simp] theorem toJson_flag (a : Bool) : flag.toJson a = .bool a := by rw [toJson]

/-- Every signed integer is read back. -/
@[simp] theorem readsBack_signed64 (a : Signed64) : signed64.ReadsBack a :=
  readsBack_integer (by decide) (by decide) _ a

/-- A signed integer is not written as null. -/
@[simp] theorem toJson_signed64_ne_null (a : Signed64) : signed64.toJson a ≠ .null := by
  simp [signed64, toJson, Json.ofInt]

/-- JSON that is kept as it is is written as itself. -/
@[simp] theorem toJson_json (a : Json) : json.toJson a = a := by rw [toJson]

end Shape

namespace Fields

variable {key : String} {rest : Fields β} {b : α × β}

@[simp] theorem readsBack_done (b : Unit) : done.ReadsBack b := trivial

/-- A required field in front is read back exactly if its value is. -/
@[simp] theorem readsBack_required_iff {s : Shape α} :
    (required key s rest).ReadsBack b ↔ s.ReadsBack b.1 ∧ rest.ReadsBack b.2 :=
  Iff.rfl

/-- A field with a default in front is read back exactly if its value is. -/
@[simp] theorem readsBack_defaulted_iff {s : Shape α} {value : α} :
    (defaulted key value s rest).ReadsBack b ↔ s.ReadsBack b.1 ∧ rest.ReadsBack b.2 :=
  Iff.rfl

/-- An optional field in front is read back exactly if its value is and is not written as null,
should there be one. -/
@[simp] theorem readsBack_optional_iff {s : Shape α} {b : Option α × β} :
    (optional key s rest).ReadsBack b ↔
      (∀ a, b.1 = some a → s.toJson a ≠ .null ∧ s.ReadsBack a) ∧ rest.ReadsBack b.2 := by
  obtain ⟨o, b⟩ := b
  refine and_congr_left fun _ => ⟨fun h a ha => ?_, fun h => ?_⟩
  · obtain rfl : o = some a := ha
    have hread : s.nullable.Reads (s.nullable.toJson (some a)) (some a) := h
    rw [Shape.toJson] at hread
    rcases Shape.reads_nullable_iff.1 hread with ⟨-, hnone⟩ | ⟨hnull, a', ha', hsome⟩
    · cases hnone
    · exact ⟨hnull, Option.some.inj hsome ▸ ha'⟩
  · exact Presence.readsBack_omitted Option.isNone_iff_eq_none.1 fun _ =>
      Shape.readsBack_nullable h

/-- A field for a list in front is read back exactly if each item is. -/
@[simp] theorem readsBack_listed_iff {s : Shape α} {b : List α × β} :
    (listed key s.list rest).ReadsBack b ↔ (∀ a ∈ b.1, s.ReadsBack a) ∧ rest.ReadsBack b.2 := by
  obtain ⟨as, b⟩ := b
  refine and_congr_left fun _ => ⟨fun h => ?_, fun h => ?_⟩
  · cases as with
    | nil => exact fun a ha => absurd ha List.not_mem_nil
    | cons a as => exact Shape.readsBack_list_iff.1 h
  · exact Presence.readsBack_omitted List.isEmpty_iff.1 fun _ => Shape.readsBack_list_iff.2 h

/-- A field for a text in front is read back. -/
@[simp] theorem readsBack_worded_iff {b : String × β} :
    (worded key .text rest).ReadsBack b ↔ rest.ReadsBack b.2 :=
  and_iff_right (Presence.readsBack_omitted (fun h => by simpa using h) fun _ =>
    Shape.readsBack_text _)

/-- A field for a truth value in front is read back. -/
@[simp] theorem readsBack_marked_iff {b : Bool × β} :
    (marked key .flag rest).ReadsBack b ↔ rest.ReadsBack b.2 :=
  and_iff_right (Presence.readsBack_omitted (fun h => by simpa using h) fun _ =>
    Shape.readsBack_flag _)

end Fields

end TopologyHooks
