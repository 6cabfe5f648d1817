import TopologyHooks.Proofs.Pointwise
import TopologyHooks.Proofs.Shape.Reading
import TopologyHooks.Proofs.Template.Regular

/-!
# Gentle changes of templates

`Template.Gentle` says of a change that it leaves alone what need not be read as it was written:
points in time, the signs of zeros, and null, which is never read (`Template.fieldsAt_ne_null`).
Main statement: a template may follow one that was changed gently into it
(`Template.Gentle.follows`).
-/

set_option autoImplicit false

namespace TopologyHooks

namespace ObjectMeta

/-- When a change at a place of the history of an object was made. -/
def timeAt (m : ObjectMeta) (i : Nat) : Option Timestamp :=
  (m.managedFields.bind (·[i]?)).bind ManagedFields.time

/-- Which fields a change at a place of the history of an object owns. -/
def fieldsAt (m : ObjectMeta) (i : Nat) : Option Json :=
  (m.managedFields.bind (·[i]?)).bind ManagedFields.fieldsV1

end ObjectMeta

/-- Whether a change of a template leaves its version and kind alone and all points in time in its
metadata, and sets owned fields neither to null nor to a value in which a zero at some place has
another sign than the one that was there. -/
structure Template.Gentle {σ : Type} (before after : Template σ) : Prop where
  apiVersion : after.apiVersion = before.apiVersion
  kind : after.kind = before.kind
  creation : ∀ time, after.metadata.creationTimestamp = some time →
    before.metadata.creationTimestamp = some time
  deletion : ∀ time, after.metadata.deletionTimestamp = some time →
    before.metadata.deletionTimestamp = some time
  history : ∀ i time, after.metadata.timeAt i = some time → before.metadata.timeAt i = some time
  owned : ∀ i j, after.metadata.fieldsAt i = some j →
    before.metadata.fieldsAt i = some j ∨
      (j ≠ .null ∧ j.Ordered ∧ ∀ old, before.metadata.fieldsAt i = some old → old.SignsKept j)

/-! ## Metadata after others -/

/-- An entry of the history may come after an earlier one if its owned fields may, and its point in
time is the same. -/
theorem ManagedFields.follows_iff {o : Option ManagedFields} {f : ManagedFields} :
    shape.Follows o f ↔ (∀ j, f.fieldsV1 = some j → Shape.json.Follows (o.bind fieldsV1) j) ∧
      ∀ time, f.time = some time → o.bind ManagedFields.time = some time := by
  cases o <;>
    simp [shape, Shape.lenient, Fields.optional, Shape.Follows, Fields.Follows, Shape.time]

/-- Metadata may come after earlier ones if their points in time are the same and each entry of the
history may come after the one at its place. -/
theorem ObjectMeta.follows_iff {before after : ObjectMeta} :
    shape.Follows (some before) after ↔
      (∀ time, after.creationTimestamp = some time → before.creationTimestamp = some time) ∧
      (∀ time, after.deletionTimestamp = some time → before.deletionTimestamp = some time) ∧
      ∀ history, after.managedFields = some history → ∀ (i : Nat) f, history[i]? = some f →
        ManagedFields.shape.Follows (before.managedFields.bind (·[i]?)) f := by
  simp [shape, Shape.lenient, Fields.optional, Shape.Follows, Fields.Follows, Shape.time,
    Shape.signed64, OwnerReference.shape, OwnerReference.word, Fields.defaulted]

namespace Template.Gentle

variable {σ : Type} {before after : Template σ}

/-- The metadata that a gentle change makes may come after those that there were. -/
theorem follows_metadata (h : before.Gentle after) :
    ObjectMeta.shape.Follows (some before.metadata) after.metadata := by
  refine ObjectMeta.follows_iff.2 ⟨h.creation, h.deletion, ?_⟩
  intro ms hms i f hf
  refine ManagedFields.follows_iff.2 ⟨fun j hj => ?_, fun time ht => ?_⟩
  · exact h.owned i j (by rw [ObjectMeta.fieldsAt, hms, Option.bind_some, hf, Option.bind_some, hj])
  · exact h.history i time
      (by rw [ObjectMeta.timeAt, hms, Option.bind_some, hf, Option.bind_some, ht])

/-- A template may follow another one that was changed gently into it. -/
theorem follows {k : TemplateKind} {before after : k.Object} (h : before.Gentle after) :
    k.shape.Follows (some before) after :=
  follows_shape_iff.2 ⟨h.follows_metadata, k.follows_innerShape _ _⟩

end Template.Gentle

/-! ## Where owned fields are written -/

open Shape

/-- The owned fields of an entry of the history are written under their key, if it has any. -/
theorem ManagedFields.child?_fieldsV1 (f : ManagedFields) :
    (shape.toJson f).child? "fieldsV1" = f.fieldsV1 := by
  have h := Fields.getElem?_written regular_shape.2.2.2.nodup_keys
    (f.apiVersion, f.fieldsType, f.fieldsV1, f.manager, f.operation, f.subresource, f.time, ())
    (i := 2) rfl
  rw [shape, Shape.lenient, toJson_record, Json.child?]
  refine (Option.some.inj h).symm.trans ?_
  cases f.fieldsV1 <;> rfl

/-- The history is written under its key, entry by entry, if there is one. -/
theorem ObjectMeta.child?_managedFields (m : ObjectMeta) :
    (shape.toJson m).child? "managedFields" =
      m.managedFields.map fun fs => .arr (fs.map ManagedFields.shape.toJson) := by
  have h := Fields.getElem?_written regular_shape.2.2.2.nodup_keys
    (m.annotations, m.creationTimestamp, m.deletionGracePeriodSeconds, m.deletionTimestamp,
      m.finalizers, m.generateName, m.generation, m.labels, m.managedFields, m.name,
      m.namespaceName, m.ownerReferences, m.resourceVersion, m.selfLink, m.uid, ())
    (i := 8) rfl
  rw [shape, Shape.lenient, toJson_record, Json.child?]
  refine (Option.some.inj h).symm.trans ?_
  cases m.managedFields <;> simp [Presence.written, Presence.skips, toJson]

/-- The metadata of a template are written under their key. -/
theorem TemplateKind.child?_metadata (k : TemplateKind) (t : k.Object) :
    (k.shape.toJson t).child? "metadata" = some (ObjectMeta.shape.toJson t.metadata) := by
  have h := Fields.getElem?_written k.regular_shape.2.2.nodup_keys
    (t.apiVersion, t.kind, t.metadata, t.spec, ()) (i := 2) rfl
  exact (Option.some.inj h).symm

/-- Owned fields are written at their place in the history of an object. -/
theorem Template.at?_fieldsV1 {k : TemplateKind} (t : k.Object) (i : Nat) :
    (k.shape.toJson t).at? ["metadata", "managedFields", toString i, "fieldsV1"] =
      t.metadata.fieldsAt i := by
  rw [Json.at?, k.child?_metadata, Option.bind_some, Json.at?, ObjectMeta.child?_managedFields,
    ObjectMeta.fieldsAt]
  cases t.metadata.managedFields with
  | none => rfl
  | some fs =>
    have hitem : (Json.arr (fs.map ManagedFields.shape.toJson)).child? (toString i) =
        fs[i]?.map ManagedFields.shape.toJson := by
      rw [Json.child?, Pointer.index?_toString, Option.bind_some, List.getElem?_map]
    rw [Option.map_some, Option.bind_some, Option.bind_some, Json.at?, hitem]
    cases fs[i]? with
    | none => rfl
    | some f =>
      rw [Option.map_some, Option.bind_some, Option.bind_some, Json.at?,
        ManagedFields.child?_fieldsV1]
      cases f.fieldsV1 <;> rfl

/-- Templates that are written the same have the same owned fields at each place of the history. -/
theorem Template.rel_fieldsAt_of_same {k : TemplateKind} {t t' : k.Object}
    (h : (k.shape.toJson t).same (k.shape.toJson t') = true) (i : Nat) :
    Option.Rel (fun x y => x.same y = true) (t.metadata.fieldsAt i) (t'.metadata.fieldsAt i) := by
  rw [← at?_fieldsV1 t i, ← at?_fieldsV1 t' i]
  exact Json.rel_at?_of_same h _

/-! ## Null is never read -/

/-- Owned fields that were read are no null. -/
theorem ManagedFields.fieldsV1_ne_null {raw : Json} {f : ManagedFields}
    (h : shape.Reads raw f) : f.fieldsV1 ≠ some .null := by
  obtain ⟨slots, b, hb, rfl⟩ := exists_reads_of_reads_record h
  intro hnull
  obtain ⟨-, -, hfields, -⟩ := hb
  obtain ⟨version, type, fields, rest⟩ := b
  obtain rfl : fields = some .null := hnull
  obtain ⟨x, hne, hx⟩ := Presence.exists_of_reads_optional hfields
  exact hne (reads_json_iff.1 hx).2

/-- No owned fields in metadata that were read are null. -/
theorem ObjectMeta.fieldsAt_ne_null {raw : Json} {m : ObjectMeta} (h : shape.Reads raw m)
    (i : Nat) : m.fieldsAt i ≠ some .null := by
  obtain ⟨slots, b, hb, rfl⟩ := exists_reads_of_reads_record h
  intro hnull
  obtain ⟨f, hf, hfields⟩ := Option.bind_eq_some_iff.1 hnull
  obtain ⟨history, hhistory, hf⟩ := Option.bind_eq_some_iff.1 hf
  obtain ⟨-, -, -, -, -, -, -, -, hb, -⟩ := hb
  obtain ⟨a₁, a₂, a₃, a₄, a₅, a₆, a₇, a₈, found, rest⟩ := b
  obtain rfl : found = some history := hhistory
  obtain ⟨x, -, hx⟩ := Presence.exists_of_reads_optional hb
  obtain ⟨items, rfl, hitems⟩ := reads_list_iff.1 hx
  obtain ⟨y, -, hy⟩ := exists_mem_of_forall₂ hitems.flip f (List.mem_of_getElem? hf)
  exact ManagedFields.fieldsV1_ne_null hy hfields

/-- No object is read as a template with null as owned fields, so that a change which sets it is
lost. -/
theorem Template.fieldsAt_ne_null {k : TemplateKind} {raw : Json} {t : k.Object}
    (h : k.shape.Reads raw t) (i : Nat) : t.metadata.fieldsAt i ≠ some .null := by
  obtain ⟨slots, b, hb, rfl⟩ := exists_reads_of_reads_record h
  obtain ⟨-, -, hb, -⟩ := hb
  obtain ⟨version, kind, metadata, rest⟩ := b
  change metadata.fieldsAt i ≠ some .null
  cases hslot : (slots.tail.tail).headD none with
  | none =>
    rw [hslot] at hb
    obtain rfl : ObjectMeta.blank = metadata := Option.some.inj hb
    intro hnull
    cases hnull
  | some x =>
    rw [hslot] at hb
    exact ObjectMeta.fieldsAt_ne_null hb i

end TopologyHooks
