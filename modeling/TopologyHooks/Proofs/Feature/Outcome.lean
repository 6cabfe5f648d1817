import TopologyHooks.Proofs.Feature.Spec
import TopologyHooks.Proofs.Handler.Failure

/-!
# What comes of one mutator

Once a mutator has a value and an object that it can read, its change decides what it does: if the
change fails so does the mutator, and nothing is recorded (`Mutator.generate_of_change_error`);
otherwise the mutator succeeds exactly if the difference can be replayed on the object
(`Mutator.exists_generate_of_run?`, `Mutator.exists_extends_of_generate`). For a feature that does
nothing while its variable is unset this is said of its change of the specification
(`Feature.generate_mutator_of_error`, `Feature.generate_mutator_of_ok`).
-/

set_option autoImplicit false

namespace TopologyHooks

open Patch

namespace Mutator

variable {m : Mutator} {registry : ObjectRegistry} {item : GeneratePatches.RequestItem}
  {vars : Variables} {l l' : Ledger} {value : m.Input} {t u : m.kind.Object} {e : Error}

/-- A mutator with a value for an object makes its change of it. -/
theorem generate_eq_mutate
    (hvalue : m.valueFor? vars item.holderReference (l.current item.uid item.object) = some value) :
    m.generate registry item vars l =
      l.mutate registry m.kind item vars m.selector
        (m.change ⟨vars, item.holderReference⟩ value) := by
  obtain ⟨found, hread, hfound, -⟩ := valueFor?_eq_some_iff.1 hvalue
  simp only [generate, hread, hfound]

/-- A mutator fails with its change, and leaves the ledger as it was. -/
theorem generate_of_change_error
    (hvalue : m.valueFor? vars item.holderReference (l.current item.uid item.object) = some value)
    (ht : registry.decodeAs m.kind (l.current item.uid item.object) = .ok t)
    (he : m.change ⟨vars, item.holderReference⟩ value t = .error e) :
    m.generate registry item vars l = (l, some e) := by
  obtain ⟨_, _, _, hs⟩ := valueFor?_eq_some_iff.1 hvalue
  rw [generate_eq_mutate hvalue]
  simp [Ledger.mutate, Mutation.patch?, Mutation.patchOf, hs, ht, he]

/-- A mutator whose change can be made fails only as its patch does. -/
theorem exists_failedPatch
    (hvalue : m.valueFor? vars item.holderReference (l.current item.uid item.object) = some value)
    (ht : registry.decodeAs m.kind (l.current item.uid item.object) = .ok t)
    (hu : m.change ⟨vars, item.holderReference⟩ value t = .ok u)
    (he : (m.generate registry item vars l).2 = some e) :
    ∃ f, (diff (m.kind.shape.toJson t) (m.kind.shape.toJson u)).apply
        (l.current item.uid item.object) = .error f ∧ e = .patch (.failedPatch item.uid f) := by
  obtain ⟨_, _, _, hs⟩ := valueFor?_eq_some_iff.1 hvalue
  rw [generate_eq_mutate hvalue] at he
  exact (Ledger.mutate_eq_some_iff_of_ok hs ht hu).1 he

/-- A mutator that succeeds has replayed its change. -/
theorem exists_extends_of_generate
    (hvalue : m.valueFor? vars item.holderReference (l.current item.uid item.object) = some value)
    (ht : registry.decodeAs m.kind (l.current item.uid item.object) = .ok t)
    (hu : m.change ⟨vars, item.holderReference⟩ value t = .ok u)
    (h : m.generate registry item vars l = (l', none)) :
    ∃ next, run? (diff (m.kind.shape.toJson t) (m.kind.shape.toJson u))
        (l.current item.uid item.object) = some next ∧
      l.Extends l' item.uid item.object (diff (m.kind.shape.toJson t) (m.kind.shape.toJson u))
        next := by
  obtain ⟨_, _, _, hs⟩ := valueFor?_eq_some_iff.1 hvalue
  rw [generate_eq_mutate hvalue] at h
  obtain ⟨before, after, next, hb, ha, hnext, hext⟩ := Ledger.exists_of_mutate h hs
  obtain rfl := Except.ok.inj (ht.symm.trans hb)
  obtain rfl := Except.ok.inj (hu.symm.trans ha)
  exact ⟨next, hnext, hext⟩

/-- A mutator succeeds when its change can be replayed. -/
theorem exists_generate_of_run? {next : Json}
    (hvalue : m.valueFor? vars item.holderReference (l.current item.uid item.object) = some value)
    (ht : registry.decodeAs m.kind (l.current item.uid item.object) = .ok t)
    (hu : m.change ⟨vars, item.holderReference⟩ value t = .ok u)
    (hnext : run? (diff (m.kind.shape.toJson t) (m.kind.shape.toJson u))
      (l.current item.uid item.object) = some next) :
    ∃ l', m.generate registry item vars l = (l', none) ∧
      l.Extends l' item.uid item.object (diff (m.kind.shape.toJson t) (m.kind.shape.toJson u))
        next := by
  have hnone : (m.generate registry item vars l).2 = none := by
    refine Option.eq_none_iff_forall_ne_some.2 fun e he => ?_
    obtain ⟨f, happ, -⟩ := exists_failedPatch hvalue ht hu he
    rw [apply_eq_ok_iff.2 hnext] at happ
    cases happ
  obtain ⟨next', hnext', hext⟩ := exists_extends_of_generate hvalue ht hu (Prod.ext rfl hnone)
  obtain rfl := Option.some.inj (hnext.symm.trans hnext')
  exact ⟨_, Prod.ext rfl hnone, hext⟩

/-- An object on which a gentle change was replayed is read as what the change makes. -/
theorem decode_current_of_extends {next : Json} (hgentle : t.Gentle u)
    (ho : (l.current item.uid item.object).Ordered)
    (ht : registry.decode (l.current item.uid item.object) = .ok ⟨m.kind, t⟩)
    (hnext : run? (diff (m.kind.shape.toJson t) (m.kind.shape.toJson u))
      (l.current item.uid item.object) = some next)
    (hext : l.Extends l' item.uid item.object
      (diff (m.kind.shape.toJson t) (m.kind.shape.toJson u)) next) :
    (l'.current item.uid item.object).Ordered ∧
      registry.decode (l'.current item.uid item.object) = .ok ⟨m.kind, u⟩ := by
  rw [hext.current]
  obtain ⟨hordered, -, hdecode⟩ := Mutation.decode_of_run?_diff ho ht hgentle hnext
  exact ⟨hordered, hdecode⟩

end Mutator

/-! ## Features -/

namespace Feature

variable {α : Type} {name : String} {source : VariableRef} {k : TemplateKind}
  {selector : TemplateKind → PatchSelector} {input : Shape α}
  {change : α → k.Spec → Except Error k.Spec} {registry : ObjectRegistry}
  {item : GeneratePatches.RequestItem} {vars : Variables} {l l' : Ledger} {value : α}
  {t : k.Object} {s : k.Spec} {e : Error}

/-- A mutator has the value of its variable for each object that it selects. -/
theorem valueFor?_mutator (hread : source.get input vars = .ok (some value))
    (hs : (selector k).selects (l.current item.uid item.object) item.holderReference vars = true) :
    (mutator name source k selector input change).valueFor? vars item.holderReference
      (l.current item.uid item.object) = some value :=
  Mutator.valueFor?_eq_some_iff.2 ⟨some value, hread, rfl, hs⟩

/-- If the change of a specification succeeds and the mutator does not fail, the ledger goes on by
its steps, and the object is then read as the changed template. -/
theorem exists_extends_of_generate_mutator (hread : source.get input vars = .ok (some value))
    (hs : (selector k).selects (l.current item.uid item.object) item.holderReference vars = true)
    (ho : (l.current item.uid item.object).Ordered)
    (ht : registry.decode (l.current item.uid item.object) = .ok ⟨k, t⟩)
    (hchange : change value t.spec = .ok s)
    (h : (mutator name source k selector input change).generate registry item vars l =
      (l', none)) :
    ∃ next, run? (diff (k.shape.toJson t) (k.shape.toJson { t with spec := s }))
        (l.current item.uid item.object) = some next ∧
      l.Extends l' item.uid item.object
        (diff (k.shape.toJson t) (k.shape.toJson { t with spec := s })) next ∧
      (l'.current item.uid item.object).Ordered ∧
      registry.decode (l'.current item.uid item.object) = .ok ⟨k, { t with spec := s }⟩ := by
  have hu : onSpec (change value) t = .ok { t with spec := s } := onSpec_eq_ok_iff.2 ⟨hchange, rfl⟩
  obtain ⟨next, hnext, hext⟩ := Mutator.exists_extends_of_generate (valueFor?_mutator hread hs)
    (ObjectRegistry.decodeAs_eq_ok_iff.2 ht) hu h
  exact ⟨next, hnext, hext,
    Mutator.decode_current_of_extends (gentle_onSpec hu) ho ht hnext hext⟩

end Feature

end TopologyHooks
