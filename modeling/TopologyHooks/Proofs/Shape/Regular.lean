import TopologyHooks.Proofs.Patch.Difference
import TopologyHooks.Proofs.Shape.Writing

/-!
# Regular shapes

* `Shape.Follows` — whether a value may come after an earlier one without a loss in writing. Only
  values that are spelled out, and JSON that is kept as it is, can get lost.
* `Shape.Regular` — what is asked of a shape so that its values can be read, changed and patched:
  the two directions of every record are inverse, its keys are distinct and are no indices, and a
  field that is left out in writing is one that reads the same when it is missing.
-/

set_option autoImplicit false

namespace TopologyHooks

open Patch

/-! ## Values after others -/

mutual

/-- Whether a value may come after an earlier one, if there was one. What is spelled out must stay,
and JSON that is kept as it is must stay or become a value that is not null and in which no zero
differs from the one at its place in sign. -/
def Shape.Follows : {α : Type} → Shape α → Option α → α → Prop
  | _, .json, o, b => o = some b ∨ (b ≠ .null ∧ b.Ordered ∧ ∀ a, o = some a → a.SignsKept b)
  | _, .spelled _ _ _, o, b => o = some b
  | _, .list item, o, bs =>
    ∀ (i : Nat) b, bs[i]? = some b → Shape.Follows item (o.bind (·[i]?)) b
  | _, .dictionary item, o, d =>
    ∀ key b, d.get? key = some b → Shape.Follows item (o.bind (·.get? key)) b
  | _, .nullable inner, o, b => ∀ b', b = some b' → Shape.Follows inner o.join b'
  | _, .record _ fields _ outOf, o, b => Fields.Follows fields (o.map outOf) (outOf b)
  | _, .text, _, _ => True
  | _, .flag, _, _ => True
  | _, .integer _ _ _, _, _ => True
  | _, .mapped _ _ _, _, _ => True
  | _, .real, _, _ => False
  | _, .choice _ _, _, _ => False
  | _, .flattened _ _ _ _ _, _, _ => False
  | _, .deferred _ _, _, _ => False
  | _, .described _ _, _, _ => False

/-- Whether the values of all fields may come after earlier ones. -/
def Fields.Follows : {β : Type} → Fields β → Option β → β → Prop
  | _, .done, _, _ => True
  | _, .field _ _ s rest, o, b =>
    Shape.Follows s (o.map Prod.fst) b.1 ∧ Fields.Follows rest (o.map Prod.snd) b.2

end

/-! ## Regular shapes -/

/-- Whether only JSON that is kept as it is is written as null. -/
def Shape.Solid : {α : Type} → Shape α → Prop
  | _, .text => True
  | _, .flag => True
  | _, .integer _ _ _ => True
  | _, .json => True
  | _, .spelled _ _ _ => True
  | _, .list _ => True
  | _, .dictionary _ => True
  | _, .record _ _ _ _ => True
  | _, _ => False

/-- Whether a field that is not written reads the same when it is missing. -/
def Presence.Lawful {α : Type} (s : Shape α) : Presence α → Prop
  | .required => True
  | .defaulted value => s.Follows none value
  | .omitted value skip =>
    (∀ a, skip a = true ↔ a = value) ∧ ∀ b, s.Follows (some value) b → s.Follows none b

/-- An optional field reads as nothing when it is missing, as it does when it is not written. -/
theorem Presence.lawful_optional {α : Type} (s : Shape α) :
    Lawful s.nullable (.omitted none Option.isNone) :=
  ⟨fun a => by cases a <;> simp, fun b hb b' hb' => hb b' hb'⟩

/-- A field for a list reads as the empty list when it is missing, as it does when it is not
written. -/
theorem Presence.lawful_listed {α : Type} (s : Shape α) :
    Lawful s.list (.omitted [] List.isEmpty) :=
  ⟨fun a => by simp, fun b hb i b' hb' => by simpa using hb i b' hb'⟩

mutual

/-- Whether values of a shape can be read, changed and patched. -/
def Shape.Regular : {α : Type} → Shape α → Prop
  | _, .text => True
  | _, .flag => True
  | _, .json => True
  | _, .spelled _ _ _ => True
  | _, .integer low high _ => -9223372036854775808 ≤ low ∧ high < 18446744073709551616
  | _, .list item => Shape.Regular item
  | _, .dictionary item => Shape.Regular item
  | _, .nullable inner => inner.Solid ∧ Shape.Regular inner
  | _, .record _ fields into outOf =>
    (∀ a, into (outOf a) = a) ∧ (∀ b, outOf (into b) = b) ∧ Fields.Regular fields
  | _, .mapped inner into outOf =>
    Shape.Regular inner ∧ (∀ b, into (outOf b) = b) ∧ (∀ b, inner.Follows none (outOf b)) ∧
      ∀ b, ∃ t, inner.toJson (outOf b) = .str t
  | _, .real => False
  | _, .choice _ _ => False
  | _, .flattened _ _ _ _ _ => False
  | _, .deferred _ _ => False
  | _, .described _ _ => False

/-- Whether all fields are regular, with distinct keys that are no indices. -/
def Fields.Regular : {β : Type} → Fields β → Prop
  | _, .done => True
  | _, .field key p s rest =>
    OutsideArrays key ∧ key ∉ rest.keys ∧ p.Lawful s ∧ Shape.Regular s ∧ Fields.Regular rest

end

/-! ## Keys of regular fields -/

namespace Fields

/-- Regular fields have distinct keys. -/
theorem Regular.nodup_keys : ∀ {β : Type} {fields : Fields β}, fields.Regular → fields.keys.Nodup
  | _, .done, _ => List.nodup_nil
  | _, .field _ _ _ _, h => List.nodup_cons.2 ⟨h.2.1, nodup_keys h.2.2.2.2⟩

/-- No key of a regular field is an index. -/
theorem outsideArrays_of_mem_keys : ∀ {β : Type} {fields : Fields β}, fields.Regular →
    ∀ {key : String}, key ∈ fields.keys → OutsideArrays key
  | _, .done, _, _, h => by simp [keys] at h
  | _, .field k p s rest, h, key, hk => by
    rcases List.mem_cons.1 hk with rfl | hk
    · exact h.1
    · exact outsideArrays_of_mem_keys h.2.2.2.2 hk

/-- Only keys of fields are written for two values. -/
theorem mem_keys_of_mem_unionKeys {β : Type} {fields : Fields β} (h : fields.Regular) {b b' : β}
    {key : String} (hk : key ∈ unionKeys (fields.sorted b) (fields.sorted b')) :
    key ∈ fields.keys := by
  by_contra hkey
  rcases mem_unionKeys.1 hk with hk | hk
  · exact Assoc.get?_eq_none_iff.1 (get?_sorted_eq_none h.nodup_keys b hkey) hk
  · exact Assoc.get?_eq_none_iff.1 (get?_sorted_eq_none h.nodup_keys b' hkey) hk

end Fields

/-! ## Changes of records -/

namespace Shape

variable {α β : Type} {form : Form} {fields : Fields β} {into : β → α} {outOf : α → β}

/-- There are no steps for a member that no field has, so that it stays. -/
theorem memberReplay_iff_of_not_mem_keys (h : fields.keys.Nodup) {key : String}
    (hkey : key ∉ fields.keys) {b b' : β} {slot next : Option Json} :
    MemberReplay (Assoc.get? key (fields.sorted b)) (Assoc.get? key (fields.sorted b')) slot next ↔
      next = slot := by
  rw [Fields.get?_sorted_eq_none h b hkey, Fields.get?_sorted_eq_none h b' hkey]
  exact Iff.rfl

/-- What a change of a record does to an object, member by member. -/
theorem run?_diff_record_obj {members : List (String × Json)} (hs : Assoc.Sorted members)
    {a b : α} {r : Json} :
    run? (diff ((record form fields into outOf).toJson a)
        ((record form fields into outOf).toJson b)) (.obj members) = some r ↔
      ∃ members', r = .obj members' ∧ Assoc.Sorted members' ∧ ∀ key,
        MemberReplay (Assoc.get? key (fields.sorted (outOf a)))
          (Assoc.get? key (fields.sorted (outOf b))) (Assoc.get? key members)
          (Assoc.get? key members') := by
  rw [toJson_record, toJson_record]
  exact run?_diff_obj (fields.sorted_sorted _) (fields.sorted_sorted _) hs

/-- A change of a record that changes anything fails on an array. -/
theorem run?_diff_record_arr (hf : fields.Regular) {items : List Json} {a b : α} {r : Json} :
    run? (diff ((record form fields into outOf).toJson a)
        ((record form fields into outOf).toJson b)) (.arr items) = some r ↔
      diff ((record form fields into outOf).toJson a)
        ((record form fields into outOf).toJson b) = [] ∧ r = .arr items := by
  rw [toJson_record, toJson_record]
  refine run?_diff_obj_arr (fields.sorted_sorted _) (fields.sorted_sorted _) fun key hk => ?_
  exact Fields.outsideArrays_of_mem_keys hf (Fields.mem_keys_of_mem_unionKeys hf hk)

end Shape

end TopologyHooks
