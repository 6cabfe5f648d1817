import TopologyHooks.Proofs.Template.Gentle
import TopologyHooks.Proofs.Shape.Replay
import TopologyHooks.Selector

/-!
# Reading templates by their kind

* `Json.Names` — whether an object says that it is of a kind.
* `ObjectRegistry.decode_eq_ok_iff` — an object is read as a template exactly if it names a known
  kind and is read as that kind's shape.
* `TemplateKind.sameNames_of_run?_diff` — replaying a change that leaves version and kind alone
  leaves the names of the object, and with them what selects it (`PatchSelector.selects_congr`).
-/

set_option autoImplicit false

namespace TopologyHooks

open Patch

namespace Json

/-- Whether an object says that it is of a kind. -/
def Names (raw : Json) (k : TemplateKind) : Prop :=
  raw.member? "apiVersion" = some (.str k.apiVersion) ∧ raw.member? "kind" = some (.str k.name)

/-- Whether two objects say that they are of the same version and kind. -/
def SameNames (raw raw' : Json) : Prop :=
  raw'.member? "apiVersion" = raw.member? "apiVersion" ∧ raw'.member? "kind" = raw.member? "kind"

/-- An object says the same version and kind as itself. -/
theorem SameNames.refl (raw : Json) : raw.SameNames raw := ⟨rfl, rfl⟩

/-- Objects that say the same as a third one say the same as each other. -/
theorem SameNames.trans {a b c : Json} (h : a.SameNames b) (h' : b.SameNames c) :
    a.SameNames c :=
  ⟨h'.1.trans h.1, h'.2.trans h.2⟩

/-- Of objects that say the same, both say a kind if one does. -/
theorem Names.congr {raw raw' : Json} {k : TemplateKind} (h : raw.Names k)
    (hs : raw.SameNames raw') : raw'.Names k :=
  ⟨hs.1.trans h.1, hs.2.trans h.2⟩

/-- An object says one kind at most. -/
theorem Names.unique {raw : Json} {k k' : TemplateKind} (h : raw.Names k) (h' : raw.Names k') :
    k = k' := by
  have hname := h.2.symm.trans h'.2
  rw [Option.some.injEq, Json.str.injEq] at hname
  exact TemplateKind.name_injective hname

end Json

/-! ## Selection -/

namespace PatchSelector

/-- What is selected depends on the version and kind that an object names. -/
theorem selects_congr {raw raw' : Json} (h : raw.SameNames raw') (s : PatchSelector)
    (holder : HolderReference) (vars : Variables) :
    s.selects raw' holder vars = s.selects raw holder vars := by
  rw [selects, selectsKind, h.1, h.2]
  rfl

/-- A selector for a kind selects only objects that say this kind. -/
theorem names_of_selects {s : PatchSelector} {raw : Json} {holder : HolderReference}
    {vars : Variables} {k : TemplateKind} (h : s.selects raw holder vars = true)
    (hversion : s.apiVersion = k.apiVersion) (hkind : s.kind = k.name) : raw.Names k := by
  rw [selects, selectsKind, hversion, hkind, Bool.and_eq_true, Bool.and_eq_true] at h
  exact ⟨by simpa using h.1.1, by simpa using h.1.2⟩

end PatchSelector

/-! ## Registries -/

namespace ObjectRegistry

variable {r : ObjectRegistry} {raw : Json} {k : TemplateKind} {t : k.Object}

/-- The kind that is looked up has the version and the name that were asked for, and is known. -/
theorem lookup_eq_some {apiVersion name : String} (h : r.lookup apiVersion name = some k) :
    apiVersion = k.apiVersion ∧ name = k.name ∧ r.contains k = true := by
  have hk := List.find?_some h
  simp only [Bool.and_eq_true, beq_iff_eq] at hk
  obtain ⟨rfl, rfl⟩ := hk
  exact ⟨rfl, rfl, by simp [contains, h]⟩

/-- A text that is not empty is found under a key exactly if it stands there as a text. -/
theorem textAt_eq_iff {key text : String} (h : text ≠ "") :
    textAt key raw = text ↔ raw.member? key = some (.str text) := by
  unfold textAt
  cases raw.member? key with
  | none => simpa using Ne.symm h
  | some j => cases j <;> simp [Json.string?, Ne.symm h]

/-- An object says a kind exactly if the texts found for its version and kind are those of the
kind. -/
theorem names_iff : raw.Names k ↔
    textAt "apiVersion" raw = k.apiVersion ∧ textAt "kind" raw = k.name := by
  rw [textAt_eq_iff (by cases k <;> decide), textAt_eq_iff (by cases k <;> decide)]
  rfl

/-- An object is read as a template if it names a known kind and is read as that kind's shape. -/
theorem decode_eq_ok_iff :
    r.decode raw = .ok ⟨k, t⟩ ↔
      r.contains k = true ∧ raw.Names k ∧ k.shape.ofJson raw = .ok t := by
  rw [decode]
  constructor
  · intro h
    split at h
    · cases h
    · rename_i k' hk
      obtain ⟨hversion, hname, hcontains⟩ := lookup_eq_some hk
      split at h
      · rename_i t' ho
        cases h
        exact ⟨hcontains, names_iff.2 ⟨hversion, hname⟩, mapError_eq_ok_iff.1 ho⟩
      · cases h
  · rintro ⟨hcontains, hnames, ho⟩
    obtain ⟨hversion, hname⟩ := names_iff.1 hnames
    have hk : r.lookup (textAt "apiVersion" raw) (textAt "kind" raw) = some k := by
      rw [hversion, hname]
      simpa [contains] using hcontains
    simp [hk, TemplateKind.decode, ho, Except.mapError]

/-- Reading an object as one of a kind succeeds exactly if reading it as any gives one of this
kind. -/
theorem decodeAs_eq_ok_iff : r.decodeAs k raw = .ok t ↔ r.decode raw = .ok ⟨k, t⟩ := by
  unfold decodeAs
  cases hd : r.decode raw with
  | error e => simp
  | ok o =>
    obtain ⟨k', t'⟩ := o
    by_cases hk : k' = k
    · subst hk
      simp
    · simp [hk]

end ObjectRegistry

/-! ## Names of what is read -/

/-- A required text is read from itself alone. -/
theorem Presence.eq_some_of_reads_required_text {slot : Option Json} {t : String}
    (h : Presence.required.Reads .text slot t) : slot = some (.str t) := by
  cases slot with
  | none => cases (show none = some t from h)
  | some raw => exact congrArg some (Shape.reads_text_iff.1 h)

namespace TemplateKind

variable {k : TemplateKind} {raw raw' : Json} {before after : k.Object}

/-- A template that was read has the version and the kind that the object says. -/
theorem names_of_reads {members : List (String × Json)} {t : k.Object}
    (h : k.shape.Reads (.obj members) t) :
    Assoc.get? "apiVersion" members = some (.str t.apiVersion) ∧
      Assoc.get? "kind" members = some (.str t.kind) := by
  obtain ⟨-, ⟨version, kind, rest⟩, hb, rfl⟩ := Shape.reads_record_obj_iff.1 h
  obtain ⟨hversion, hkind, -⟩ := hb
  exact ⟨Presence.eq_some_of_reads_required_text hversion,
    Presence.eq_some_of_reads_required_text hkind⟩

/-- Replaying a change that leaves version and kind alone leaves what the object names. -/
theorem sameNames_of_run?_diff (h : k.shape.Reads raw before) (hg : before.Gentle after)
    (hrun : run? (diff (k.shape.toJson before) (k.shape.toJson after)) raw = some raw') :
    raw.SameNames raw' := by
  have h' := k.shape.replayable k.regular_shape h hg.follows hrun
  obtain ⟨members, rfl⟩ | ⟨items, rfl⟩ := Shape.nested_of_reads_record h
  · obtain ⟨members', rfl, -, -⟩ :=
      (Shape.run?_diff_record_obj (Json.ordered_obj.1 h.ordered).1).1 hrun
    obtain ⟨hversion, hkind⟩ := names_of_reads h
    obtain ⟨hversion', hkind'⟩ := names_of_reads h'
    exact ⟨by rw [Json.member?, Json.member?, hversion, hversion', hg.apiVersion],
      by rw [Json.member?, Json.member?, hkind, hkind', hg.kind]⟩
  · obtain ⟨-, rfl⟩ := (Shape.run?_diff_record_arr k.regular_shape.2.2).1 hrun
    exact Json.SameNames.refl _

end TemplateKind

end TopologyHooks
