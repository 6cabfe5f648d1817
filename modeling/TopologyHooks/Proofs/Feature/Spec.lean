import TopologyHooks.Feature.Basic
import TopologyHooks.Proofs.Mutation.Replay

/-!
# Changes of the specification

Features change the specification of a template alone, which is gentle (`Feature.gentle_onSpec`).
-/

set_option autoImplicit false

namespace TopologyHooks

namespace Feature

/-- A change of a specification makes of a template the one with the changed specification, and
succeeds exactly if it does so there. -/
theorem onSpec_eq_ok_iff {k : TemplateKind} {change : k.Spec → Except Error k.Spec}
    {before after : k.Object} :
    onSpec change before = .ok after ↔
      change before.spec = .ok after.spec ∧ after = { before with spec := after.spec } := by
  rw [onSpec, map_eq_ok_iff]
  constructor
  · rintro ⟨spec, hspec, rfl⟩
    exact ⟨hspec, rfl⟩
  · rintro ⟨hspec, h⟩
    exact ⟨after.spec, hspec, h.symm⟩

/-- A change of the specification alone is gentle. -/
theorem gentle_onSpec {k : TemplateKind} {change : k.Spec → Except Error k.Spec}
    {before after : k.Object} (h : onSpec change before = .ok after) : before.Gentle after := by
  obtain ⟨-, h⟩ := onSpec_eq_ok_iff.1 h
  rw [h]
  exact ⟨rfl, rfl, fun _ => id, fun _ => id, fun _ _ => id, fun _ _ => .inl⟩

/-- A mutator of specifications leaves the rest of a template as it is, and so is gentle. -/
theorem gentle_mutator {α : Type} (name : String) (source : VariableRef) (k : TemplateKind)
    (selector : TemplateKind → PatchSelector) (input : Shape α)
    (change : α → k.Spec → Except Error k.Spec) :
    (mutator name source k selector input change).Gentle :=
  fun _ _ _ _ => gentle_onSpec

end Feature

end TopologyHooks
