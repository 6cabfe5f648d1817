import TopologyHooks.Proofs.Patch.Focus
import TopologyHooks.Proofs.Template.Regular

/-!
# Differences of templates

* `Shape.diff_record_of_set` — two values of a record that are written alike but for one field
  differ in that member alone.
* `TemplateKind.diff_withSpec` — a template with another specification differs from it inside
  `spec.template.spec`; what an object has there is read as the specification of the template that
  the object is read as (`TemplateKind.reads_spec`).
-/

set_option autoImplicit false

namespace TopologyHooks

open Patch

/-! ## One field -/

namespace Presence

variable {α : Type} {s : Shape α}

/-- An optional field is written if it is set. -/
theorem written_optional (o : Option α) :
    (omitted none Option.isNone).written s.nullable o = o.map s.toJson := by
  cases o <;> simp [written, skips, Shape.toJson]

/-- A list that is not empty is written as an array. -/
theorem written_listed {as : List α} (h : as ≠ []) :
    (omitted [] List.isEmpty).written s.list as = some (.arr (as.map s.toJson)) := by
  simp [written, skips, Shape.toJson, h]

end Presence

namespace Fields

variable {β : Type} {fields : Fields β} {b b' : β} {i : Nat} {key : String}
  {w' : Option Json}

/-- If only one field is written in another way, what is under other keys stays. -/
theorem get?_sorted_of_set (hnodup : fields.keys.Nodup) (hkey : fields.keys[i]? = some key)
    (hset : fields.written b' = (fields.written b).set i w') {other : String} (hne : other ≠ key) :
    Assoc.get? other (fields.sorted b) = Assoc.get? other (fields.sorted b') := by
  by_cases hmem : other ∈ fields.keys
  · obtain ⟨j, hj⟩ := List.getElem?_of_mem hmem
    have hij : i ≠ j := by
      rintro rfl
      exact hne (Option.some.inj (hj.symm.trans hkey))
    have hwritten := getElem?_written hnodup b' hj
    rw [hset, List.getElem?_set_ne hij, getElem?_written hnodup b hj] at hwritten
    exact Option.some.inj hwritten
  · rw [get?_sorted_eq_none hnodup b hmem, get?_sorted_eq_none hnodup b' hmem]

end Fields

namespace Shape

variable {α β γ : Type} {form : Form} {fields : Fields β} {into : β → α} {outOf : α → β} {a a' : α}
  {i : Nat} {key : String} {w w' : Option Json} {inner : Shape γ} {o o' : Option γ}

/-- Two values that are written alike but for one field differ in that member alone. -/
theorem diff_record_of_set (hnodup : fields.keys.Nodup)
    (h : ((record form fields into outOf).toJson a).Ordered)
    (h' : ((record form fields into outOf).toJson a').Ordered)
    (hkey : fields.keys[i]? = some key) (hw : (fields.written (outOf a))[i]? = some w)
    (hset : fields.written (outOf a') = (fields.written (outOf a)).set i w') :
    diff ((record form fields into outOf).toJson a) ((record form fields into outOf).toJson a') =
      memberDiff key w w' := by
  rw [toJson_record] at h h' ⊢
  rw [toJson_record, diff_obj_of_agree h h' fun other hne =>
    Fields.get?_sorted_of_set hnodup hkey hset hne]
  have hbefore := Fields.getElem?_written hnodup (outOf a) hkey
  have hafter := Fields.getElem?_written hnodup (outOf a') hkey
  have hlt : i < (fields.written (outOf a)).length := (List.getElem?_eq_some_iff.1 hw).1
  rw [hw, Option.some.injEq] at hbefore
  rw [hset, List.getElem?_set_self hlt, Option.some.injEq] at hafter
  rw [← hbefore, ← hafter]

/-- What is written with another value for one field is in order if that value is. -/
theorem ordered_record_of_set (hnodup : fields.keys.Nodup)
    (h : ((record form fields into outOf).toJson a).Ordered)
    (hset : fields.written (outOf a') = (fields.written (outOf a)).set i w')
    (hw' : ∀ x, w' = some x → x.Ordered) :
    ((record form fields into outOf).toJson a').Ordered := by
  rw [toJson_record] at h ⊢
  refine Fields.ordered_sorted hnodup fun x hx => ?_
  rw [hset] at hx
  rcases List.mem_or_eq_of_mem_set hx with hx | hx
  · rw [← Fields.map_get?_sorted hnodup, List.mem_map] at hx
    obtain ⟨other, -, hother⟩ := hx
    exact (Json.ordered_obj.1 h).2 other x hother
  · exact hw' x hx.symm

/-- What is written for a field is in order. -/
theorem ordered_of_written (hnodup : fields.keys.Nodup)
    (h : ((record form fields into outOf).toJson a).Ordered) (hkey : fields.keys[i]? = some key)
    {x : Json} (hw : (fields.written (outOf a))[i]? = some (some x)) : x.Ordered := by
  rw [toJson_record, Json.ordered_obj] at h
  rw [Fields.getElem?_written hnodup (outOf a) hkey, Option.some.injEq] at hw
  exact h.2 key x hw

/-- If only one optional field of a record changes, the steps are those for its member. -/
theorem diff_record_of_optional (hnodup : fields.keys.Nodup)
    (h : ((record form fields into outOf).toJson a).Ordered)
    (h' : ((record form fields into outOf).toJson a').Ordered)
    (hkey : fields.keys[i]? = some key)
    (hw : (fields.written (outOf a))[i]? =
      some ((Presence.omitted none Option.isNone).written inner.nullable o))
    (hset : fields.written (outOf a') = (fields.written (outOf a)).set i
      ((Presence.omitted none Option.isNone).written inner.nullable o')) :
    diff ((record form fields into outOf).toJson a) ((record form fields into outOf).toJson a') =
      memberDiff key (o.map inner.toJson) (o'.map inner.toJson) := by
  rw [← Presence.written_optional, ← Presence.written_optional]
  exact diff_record_of_set hnodup h h' hkey hw hset

/-- The value of an optional field is written in order if the record is. -/
theorem ordered_of_optional (hnodup : fields.keys.Nodup)
    (h : ((record form fields into outOf).toJson a).Ordered) (hkey : fields.keys[i]? = some key)
    (hw : (fields.written (outOf a))[i]? =
      some ((Presence.omitted none Option.isNone).written inner.nullable o))
    {c : γ} (hc : o = some c) : (inner.toJson c).Ordered := by
  rw [Presence.written_optional, hc] at hw
  exact ordered_of_written hnodup h hkey hw

end Shape

/-! ## Templates -/

namespace Template

variable {σ : Type} {title key : String} {absent : σ} {inner : Shape σ} {s s' : σ}

/-- A value in a box is written as an object with it as the only member. -/
theorem toJson_boxed (s : σ) :
    (boxed title key absent inner).toJson s = .obj [(key, inner.toJson s)] := by
  simp [boxed, Shape.struct, Shape.toJson, Fields.defaulted, Fields.members, Presence.skips,
    Json.object, Assoc.insertAll, Assoc.insert]

/-- A value in a box is written in order exactly if it is so by itself. -/
theorem ordered_toJson_boxed :
    ((boxed title key absent inner).toJson s).Ordered ↔ (inner.toJson s).Ordered := by
  simp [toJson_boxed, Json.Ordered, Json.OrderedMembers, Assoc.Sorted]

/-- The steps between values in boxes are those between the values, moved to their member. -/
theorem diff_boxed :
    diff ((boxed title key absent inner).toJson s) ((boxed title key absent inner).toJson s') =
      (diff (inner.toJson s) (inner.toJson s')).map (Operation.shift [key]) := by
  simp [toJson_boxed, diff, diffAt, diffMembers, diffGone, Assoc.get?]
  exact diffAt_eq_map_shift [key] _ _

/-- A value in a box is read from the member for it, if there is one. -/
theorem reads_of_child?_boxed (hkey : Pointer.index? key = none) {raw x : Json}
    (h : (boxed title key absent inner).Reads raw s) (hx : raw.child? key = some x) :
    inner.Reads x s := by
  obtain ⟨members, rfl⟩ | ⟨items, rfl⟩ := Shape.nested_of_reads_record h
  · obtain ⟨-, ⟨s, _⟩, ⟨hs, -⟩, rfl⟩ := Shape.reads_record_obj_iff.1 h
    have hget : Assoc.get? key members = some x := hx
    change Presence.Reads _ inner (Assoc.get? key members) s at hs
    rwa [hget] at hs
  · rw [Json.child?, hkey] at hx
    cases hx

end Template

namespace TemplateKind

variable {k : TemplateKind} {t : k.Object} {s' : k.Spec}

/-- A template with another specification differs from it in the specification alone. -/
theorem diff_withSpec (h : (k.shape.toJson t).Ordered)
    (h' : (k.shape.toJson { t with spec := s' }).Ordered) :
    diff (k.shape.toJson t) (k.shape.toJson { t with spec := s' }) =
      (diff (k.innerShape.toJson t.spec) (k.innerShape.toJson s')).map
        (Operation.shift ["spec", "template", "spec"]) := by
  have hspec := Shape.diff_record_of_set (i := 3) k.regular_shape.2.2.nodup_keys h h' rfl rfl rfl
  have hbox : diff ((Template.specShape k.title k.blankSpec k.innerShape).toJson t.spec)
      ((Template.specShape k.title k.blankSpec k.innerShape).toJson s') =
      (diff (k.innerShape.toJson t.spec) (k.innerShape.toJson s')).map
        (Operation.shift ["template", "spec"]) := by
    rw [Template.specShape, Template.diff_boxed, Template.resourceShape, Template.diff_boxed,
      map_shift_shift, List.singleton_append]
  refine hspec.trans ?_
  show (diff ((Template.specShape k.title k.blankSpec k.innerShape).toJson t.spec)
      ((Template.specShape k.title k.blankSpec k.innerShape).toJson s')).map
        (Operation.shift ["spec"]) = _
  rw [hbox, map_shift_shift, List.singleton_append]

/-- What a template specifies is written in order if the template is. -/
theorem ordered_spec (h : (k.shape.toJson t).Ordered) : (k.innerShape.toJson t.spec).Ordered := by
  have hspec : ((Template.specShape k.title k.blankSpec k.innerShape).toJson t.spec).Ordered :=
    Shape.ordered_of_written (i := 3) k.regular_shape.2.2.nodup_keys h rfl rfl
  rw [Template.specShape, Template.ordered_toJson_boxed, Template.resourceShape,
    Template.ordered_toJson_boxed] at hspec
  exact hspec

/-- A template with another specification is written in order if both are. -/
theorem ordered_withSpec (h : (k.shape.toJson t).Ordered)
    (hs : (k.innerShape.toJson s').Ordered) :
    (k.shape.toJson { t with spec := s' }).Ordered := by
  have hspec : ((Template.specShape k.title k.blankSpec k.innerShape).toJson s').Ordered := by
    rwa [Template.specShape, Template.ordered_toJson_boxed, Template.resourceShape,
      Template.ordered_toJson_boxed]
  exact Shape.ordered_record_of_set (i := 3) k.regular_shape.2.2.nodup_keys h rfl
    fun x hx => Option.some.inj hx ▸ hspec

/-- What an object has in the place of the specification is read as the specification. -/
theorem reads_spec {raw x : Json} (h : k.shape.Reads raw t)
    (hx : raw.at? ["spec", "template", "spec"] = some x) : k.innerShape.Reads x t.spec := by
  obtain ⟨spec, hspec, hx⟩ := Option.bind_eq_some_iff.1 hx
  obtain ⟨resource, hresource, hx⟩ := Option.bind_eq_some_iff.1 hx
  obtain ⟨x, hinner, hx⟩ := Option.bind_eq_some_iff.1 hx
  obtain rfl := Option.some.inj hx
  have hread : (Template.specShape k.title k.blankSpec k.innerShape).Reads spec t.spec := by
    obtain ⟨members, rfl⟩ | ⟨items, rfl⟩ := Shape.nested_of_reads_record h
    · obtain ⟨-, ⟨_, _, _, s, _⟩, ⟨-, -, -, hs, -⟩, rfl⟩ := Shape.reads_record_obj_iff.1 h
      have hget : Assoc.get? "spec" members = some spec := hspec
      change Presence.Reads _ _ (Assoc.get? "spec" members) s at hs
      rwa [hget] at hs
    · cases hspec
  exact Template.reads_of_child?_boxed rfl (Template.reads_of_child?_boxed rfl hread hresource)
    hinner

end TemplateKind

end TopologyHooks
