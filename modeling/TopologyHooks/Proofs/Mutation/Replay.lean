import TopologyHooks.Proofs.Mutation.Run
import TopologyHooks.Proofs.Template.Decoding

/-!
# What an object becomes on its way

* `Mutation.changes` — the changes that mutators make of an object of a kind, in their order.
* `Mutation.Run.run?_eq` — replaying all steps leads from the object as it was received to what it
  is at last.
* `Mutation.Run.decode` — what it is at last is read as the template that all changes, one after
  the other, make of the template it was received as, if every change is gentle.
-/

set_option autoImplicit false

namespace TopologyHooks

open Patch

namespace Mutator

/-- Whether a mutator changes an object. -/
def Applies (m : Mutator) (vars : Variables) (holder : HolderReference) (object : Json) : Prop :=
  ∃ f, m.changeFor vars holder object = .ok (some f)

/-- Whether a mutator selects objects of the kind that it changes, and that kind is known. -/
def Aimed (m : Mutator) (registry : ObjectRegistry) : Prop :=
  m.selector.apiVersion = m.kind.apiVersion ∧ m.selector.kind = m.kind.name ∧
    registry.contains m.kind = true

/-- Whether all changes that a mutator makes are gentle. -/
def Gentle (m : Mutator) : Prop :=
  ∀ ctx value before after, m.change ctx value before = .ok after → before.Gentle after

/-- The change that a mutator makes of an object of a kind. -/
def changeOf? (m : Mutator) (vars : Variables) (holder : HolderReference) (object : Json)
    (k : TemplateKind) : Option (Mutation.Change k) :=
  match m.changeFor vars holder object with
  | .ok (some f) => if h : m.kind = k then some (h ▸ f) else none
  | _ => none

variable {m : Mutator} {vars : Variables} {holder : HolderReference} {object next : Json}

/-- A mutator makes the same change of objects that say the same version and kind. -/
theorem changeFor_congr (h : object.SameNames next) :
    m.changeFor vars holder next = m.changeFor vars holder object := by
  rw [changeFor, changeFor, PatchSelector.selects_congr h]

/-- A change that a mutator makes is for a selected object and one of its values. -/
theorem exists_of_changeFor {f : Mutation.Change m.kind}
    (h : m.changeFor vars holder object = .ok (some f)) :
    m.selector.selects object holder vars = true ∧ ∃ value, f = m.change ⟨vars, holder⟩ value := by
  unfold changeFor at h
  split at h
  · cases h
  · split at h
    · simp at h
    · split at h
      · rename_i hs
        simp only [Except.ok.injEq, Option.some.injEq] at h
        exact ⟨hs, _, h.symm⟩
      · simp at h

/-- A change of an object of a kind is made by a mutator of that kind, for a selected object and one
of its values. -/
theorem exists_of_changeOf? {k : TemplateKind} {f : Mutation.Change k}
    (h : m.changeOf? vars holder object k = some f) :
    m.selector.selects object holder vars = true ∧
      ∃ (hk : m.kind = k) (value : m.Input), f = hk ▸ m.change ⟨vars, holder⟩ value := by
  unfold changeOf? at h
  split at h
  · rename_i f' hf
    split at h
    · rename_i hk
      obtain ⟨hs, value, rfl⟩ := exists_of_changeFor hf
      exact ⟨hs, hk, value, (Option.some.inj h).symm⟩
    · cases h
  · cases h

/-- An object that an aimed mutator changes says the kind of the mutator. -/
theorem Aimed.names {registry : ObjectRegistry} (hm : m.Aimed registry)
    (h : m.Applies vars holder object) : object.Names m.kind := by
  obtain ⟨f, hf⟩ := h
  exact PatchSelector.names_of_selects (exists_of_changeFor hf).1 hm.1 hm.2.1

/-- The change that a gentle mutator makes of an object is gentle. -/
theorem Gentle.of_changeFor (hm : m.Gentle) {f : Mutation.Change m.kind}
    (h : m.changeFor vars holder object = .ok (some f)) {before after : m.kind.Object}
    (ha : f before = .ok after) : before.Gentle after := by
  obtain ⟨-, value, rfl⟩ := exists_of_changeFor h
  exact hm _ value before after ha

end Mutator

namespace Mutation

/-- The changes that mutators make of an object of a kind, in their order. -/
def changes (ms : List Mutator) (vars : Variables) (holder : HolderReference) (object : Json)
    (k : TemplateKind) : List (Change k) :=
  ms.filterMap fun m => m.changeOf? vars holder object k

/-- What changes, one after the other, make of a template. -/
def applyAll {k : TemplateKind} (fs : List (Change k)) (t : k.Object) : Except Error k.Object :=
  fs.foldlM (fun t f => f t) t

/-- Changes succeed one after the other exactly if the first one does, and the others do on what it
makes. -/
theorem applyAll_cons_eq_ok_iff {k : TemplateKind} {f : Change k} {fs : List (Change k)}
    {t t' : k.Object} :
    applyAll (f :: fs) t = .ok t' ↔ ∃ next, f t = .ok next ∧ applyAll fs next = .ok t' := by
  rw [applyAll, List.foldlM_cons]
  cases hf : f t with
  | error e =>
    constructor
    · intro h
      cases h
    · rintro ⟨next, h, -⟩
      cases h
  | ok next =>
    constructor
    · intro h
      exact ⟨next, rfl, h⟩
    · rintro ⟨_, ⟨⟩, h⟩
      exact h

/-- Mutators make the same changes of objects that say the same version and kind. -/
theorem changes_congr {object next : Json} (h : object.SameNames next) (ms : List Mutator)
    (vars : Variables) (holder : HolderReference) (k : TemplateKind) :
    changes ms vars holder next k = changes ms vars holder object k := by
  unfold changes Mutator.changeOf?
  simp only [Mutator.changeFor_congr h]

/-- A mutator that makes no change of an object adds none. -/
theorem changes_cons_of_idle {m : Mutator} {ms : List Mutator} {vars : Variables}
    {holder : HolderReference} {object : Json}
    (h : m.changeFor vars holder object = .ok none) (k : TemplateKind) :
    changes (m :: ms) vars holder object k = changes ms vars holder object k :=
  List.filterMap_cons_none (by rw [Mutator.changeOf?, h])

/-- A mutator that makes a change puts it in front of those that the others make of the result. -/
theorem changes_cons_of_change {m : Mutator} {ms : List Mutator} {vars : Variables}
    {holder : HolderReference} {object next : Json} (hsame : object.SameNames next)
    {f : Change m.kind} (h : m.changeFor vars holder object = .ok (some f)) :
    changes (m :: ms) vars holder object m.kind = f :: changes ms vars holder next m.kind := by
  rw [changes_congr hsame]
  exact List.filterMap_cons_some (by simp [Mutator.changeOf?, h])

/-- Replaying a gentle change leads to an object that is read as what the change makes. -/
theorem decode_of_run?_diff {registry : ObjectRegistry} {object next : Json} {k : TemplateKind}
    {before after : k.Object} (ho : object.Ordered)
    (hd : registry.decode object = .ok ⟨k, before⟩) (hg : before.Gentle after)
    (hnext : run? (diff (k.shape.toJson before) (k.shape.toJson after)) object = some next) :
    next.Ordered ∧ object.SameNames next ∧ registry.decode next = .ok ⟨k, after⟩ := by
  obtain ⟨hcontains, hnames, hread⟩ := ObjectRegistry.decode_eq_ok_iff.1 hd
  have hsame := TemplateKind.sameNames_of_run?_diff ⟨ho, hread⟩ hg hnext
  obtain ⟨ho', hread'⟩ := k.shape.replayable k.regular_shape ⟨ho, hread⟩ hg.follows hnext
  exact ⟨ho', hsame, ObjectRegistry.decode_eq_ok_iff.2 ⟨hcontains, hnames.congr hsame, hread'⟩⟩

namespace Run

variable {registry : ObjectRegistry} {vars : Variables} {holder : HolderReference}
  {ms : List Mutator} {object last : Json} {patch : Patch}

/-- Replaying all steps leads from what an object was to what it is at last. -/
theorem run?_eq (h : Run registry vars holder ms object patch last) :
    run? patch object = some last := by
  induction h with
  | done object => rfl
  | idle _ _ ih => exact ih
  | change _ _ _ hnext _ ih => rw [run?_append, hnext, Option.bind_some, ih]

/-- The steps of a run are plain: they add, replace or remove. -/
theorem plain_of_mem (h : Run registry vars holder ms object patch last) :
    ∀ o ∈ patch, o.Plain := by
  induction h with
  | done object => simp
  | idle _ _ ih => exact ih
  | change _ _ _ _ _ ih =>
    intro o ho
    rcases List.mem_append.1 ho with ho | ho
    · exact plain_of_mem_diff ho
    · exact ih o ho

/-- An object that no mutator changes stays as it was. -/
theorem eq_of_not_applies (h : Run registry vars holder ms object patch last)
    (hidle : ∀ m ∈ ms, ¬ m.Applies vars holder object) : last = object := by
  induction h with
  | done object => rfl
  | idle _ _ ih => exact ih fun m hm => hidle m (List.mem_cons_of_mem _ hm)
  | change hf _ _ _ _ _ => exact absurd ⟨_, hf⟩ (hidle _ List.mem_cons_self)

/-- What an object is at last is read as what all changes make of what it was received as. -/
theorem decode (h : Run registry vars holder ms object patch last)
    (hms : ∀ m ∈ ms, m.Aimed registry ∧ m.Gentle) (ho : object.Ordered) {k : TemplateKind}
    {t : k.Object} (hd : registry.decode object = .ok ⟨k, t⟩) :
    last.Ordered ∧ object.SameNames last ∧
      ∃ t', applyAll (changes ms vars holder object k) t = .ok t' ∧
        registry.decode last = .ok ⟨k, t'⟩ := by
  induction h generalizing t with
  | done object => exact ⟨ho, .refl object, t, rfl, hd⟩
  | @idle m rest object last patch hidle _ ih =>
    rw [changes_cons_of_idle hidle]
    exact ih (fun m hm => hms m (List.mem_cons_of_mem _ hm)) ho hd
  | @change m rest object next last patch f before after hf hb ha hnext _ ih =>
    have hb := ObjectRegistry.decodeAs_eq_ok_iff.1 hb
    rw [hd, Except.ok.injEq, TemplateObject.mk.injEq] at hb
    obtain ⟨rfl, hb⟩ := hb
    obtain rfl := eq_of_heq hb
    have hg := (hms m List.mem_cons_self).2.of_changeFor hf ha
    obtain ⟨ho', hsame, hd'⟩ := decode_of_run?_diff ho hd hg hnext
    obtain ⟨hlast, hsame', t', ht', hdt'⟩ :=
      ih (fun m hm => hms m (List.mem_cons_of_mem _ hm)) ho' hd'
    refine ⟨hlast, hsame.trans hsame', t', ?_, hdt'⟩
    rw [changes_cons_of_change hsame hf]
    exact applyAll_cons_eq_ok_iff.2 ⟨after, ha, ht'⟩

/-- Some mutator changes an object only if the object is read as the template of a kind, and then
all that change it are for that kind. -/
theorem exists_decode (h : Run registry vars holder ms object patch last)
    (hms : ∀ m ∈ ms, m.Aimed registry) {m : Mutator} (hm : m ∈ ms)
    (happ : m.Applies vars holder object) :
    ∃ t : m.kind.Object, registry.decode object = .ok ⟨m.kind, t⟩ ∧
      ∀ m' ∈ ms, m'.Applies vars holder object → m'.kind = m.kind := by
  have hkind : ∀ m' ∈ ms, m'.Applies vars holder object → m'.kind = m.kind :=
    fun m' hm' happ' => ((hms m' hm').names happ').unique ((hms m hm).names happ)
  suffices hdecode : ∃ t : m.kind.Object, registry.decode object = .ok ⟨m.kind, t⟩ by
    obtain ⟨t, ht⟩ := hdecode
    exact ⟨t, ht, hkind⟩
  induction h with
  | done object => simp at hm
  | @idle m' rest object last patch hidle _ ih =>
    rcases List.mem_cons.1 hm with rfl | hm
    · obtain ⟨f, hf⟩ := happ
      simp [hidle] at hf
    · exact ih (fun m hm => hms m (List.mem_cons_of_mem _ hm)) hm happ
        fun m hm => hkind m (List.mem_cons_of_mem _ hm)
  | @change m' rest object next last patch f before after hf hb ha hnext _ _ =>
    rw [← hkind m' List.mem_cons_self ⟨f, hf⟩]
    exact ⟨before, ObjectRegistry.decodeAs_eq_ok_iff.1 hb⟩

/-- What a run of gentle mutators makes of an ordered object is ordered. -/
theorem ordered (h : Run registry vars holder ms object patch last)
    (hms : ∀ m ∈ ms, m.Aimed registry ∧ m.Gentle) (ho : object.Ordered) : last.Ordered := by
  by_cases happ : ∃ m ∈ ms, m.Applies vars holder object
  · obtain ⟨m, hm, happ⟩ := happ
    obtain ⟨t, ht, -⟩ := h.exists_decode (fun m hm => (hms m hm).1) hm happ
    exact (h.decode hms ho ht).1
  · rw [h.eq_of_not_applies fun m hm ha => happ ⟨m, hm, ha⟩]
    exact ho

end Run

end Mutation

end TopologyHooks
