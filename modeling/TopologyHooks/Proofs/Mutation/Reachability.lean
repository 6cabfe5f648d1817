import TopologyHooks.Proofs.Mutation.Run
import TopologyHooks.Proofs.Shape.Reach
import TopologyHooks.Proofs.Template.Decoding

/-!
# When an object can be patched

Main statement: a change of a selected object that can be read and changed fails exactly if the
object lacks a place at which what is written before and after the change differs, and then it
fails for that patch (`Ledger.mutate_eq_none_iff`). Such objects are there: one without metadata
is read, but cannot be given a label (`Ledger.not_mutate_eq_none`).
-/

set_option autoImplicit false

namespace TopologyHooks

open Patch

namespace Ledger

section

variable {l : Ledger} {registry : ObjectRegistry} {k : TemplateKind}
  {item : GeneratePatches.RequestItem} {vars : Variables} {selector : PatchSelector}
  {change : Mutation.Change k} {before after : k.Object}

/-- A change of a selected object that can be read and changed is the merge of the difference. -/
theorem mutate_eq_merge
    (hs : selector.selects (l.current item.uid item.object) item.holderReference vars = true)
    (hb : registry.decodeAs k (l.current item.uid item.object) = .ok before)
    (ha : change before = .ok after)
    (hne : diff (k.shape.toJson before) (k.shape.toJson after) ≠ []) :
    (l.mutate registry k item vars selector change).2 =
      (l.merge item.uid item.object
        (diff (k.shape.toJson before) (k.shape.toJson after))).2.map
          fun f => .patch (.failedPatch item.uid f) := by
  have hpatch : Mutation.patchOf registry k (l.current item.uid item.object) change =
      .ok (diff (k.shape.toJson before) (k.shape.toJson after)) := by
    simp only [Mutation.patchOf, hb, ha]
  rw [mutate, Mutation.patch?, if_pos hs]
  simp only [hpatch]
  cases hd : diff (k.shape.toJson before) (k.shape.toJson after) with
  | nil => exact absurd hd hne
  | cons o rest =>
    cases hm : l.merge item.uid item.object (o :: rest) with
    | mk l' failure => cases failure <;> rfl

/-- A change that makes no difference does not fail. -/
theorem mutate_eq_self
    (hb : registry.decodeAs k (l.current item.uid item.object) = .ok before)
    (ha : change before = .ok after)
    (hd : diff (k.shape.toJson before) (k.shape.toJson after) = []) :
    l.mutate registry k item vars selector change = (l, none) := by
  have hpatch : Mutation.patchOf registry k (l.current item.uid item.object) change = .ok [] := by
    simp only [Mutation.patchOf, hb, ha, hd]
  rw [mutate, Mutation.patch?]
  split <;> simp_all

/-- A change of a selected object that can be read and changed fails exactly if the object lacks a
place that the change touches, and it fails because the patch cannot be applied. -/
theorem mutate_eq_none_iff (l : Ledger) (registry : ObjectRegistry) {k : TemplateKind}
    (item : GeneratePatches.RequestItem) (vars : Variables) (selector : PatchSelector)
    {change : Mutation.Change k} {before after : k.Object}
    (ho : (l.current item.uid item.object).Ordered)
    (hs : selector.selects (l.current item.uid item.object) item.holderReference vars = true)
    (hb : registry.decodeAs k (l.current item.uid item.object) = .ok before)
    (ha : change before = .ok after) (hao : (k.shape.toJson after).Ordered) :
    ((l.mutate registry k item vars selector change).2 = none ↔
      (l.current item.uid item.object).Reaches (k.shape.toJson before) (k.shape.toJson after)) ∧
    ((∃ f, (l.mutate registry k item vars selector change).2 =
        some (.patch (.failedPatch item.uid f))) ↔
      ¬ (l.current item.uid item.object).Reaches (k.shape.toJson before)
        (k.shape.toJson after)) := by
  obtain ⟨-, -, hread⟩ :=
    ObjectRegistry.decode_eq_ok_iff.1 (ObjectRegistry.decodeAs_eq_ok_iff.1 hb)
  rw [← k.shape.reachable k.regular_shape ⟨ho, hread⟩ hao]
  by_cases hd : diff (k.shape.toJson before) (k.shape.toJson after) = []
  · simp [mutate_eq_self hb ha hd, hd]
  · rw [mutate_eq_merge hs hb ha hd, ← merge_eq_none_iff]
    cases (l.merge item.uid item.object
      (diff (k.shape.toJson before) (k.shape.toJson after))).2 <;> simp

end

/-! ## Labels -/

namespace Labelled

/-- A template of a control plane with some metadata, or without any. -/
def object (metadata : Option Json) : Json :=
  .obj ([("apiVersion", .str "controlplane.cluster.x-k8s.io/v1beta1"),
    ("kind", .str "KubeadmControlPlaneTemplate")] ++ (metadata.map (("metadata", ·))).toList)

/-- The template as a part of a request. -/
def item (metadata : Option Json) : GeneratePatches.RequestItem where
  uid := "uid"
  holderReference := ⟨"cluster.x-k8s.io/v1beta1", "Cluster", "", "test", "spec.controlPlaneRef"⟩
  object := object metadata
  bindings := []

/-- What a template of a control plane with nothing but metadata is read as. -/
def template (metadata : ObjectMeta) : TemplateKind.kubeadmControlPlane.Object where
  apiVersion := "controlplane.cluster.x-k8s.io/v1beta1"
  kind := "KubeadmControlPlaneTemplate"
  metadata := metadata
  spec := .blank

/-- Metadata with one more label. -/
def withLabel (metadata : ObjectMeta) : ObjectMeta :=
  { metadata with labels := some ((metadata.labels.getD ∅).insert "tier" "gold") }

/-- The metadata with that label alone. -/
def labels : ObjectMeta := withLabel .blank

/-- A change that adds a label. -/
def change : Mutation.Change .kubeadmControlPlane :=
  fun t => .ok { t with metadata := withLabel t.metadata }

/-- The change of a template in a request of its own. -/
def mutated (metadata : Option Json) : Ledger × Option Error :=
  Ledger.empty.mutate .full .kubeadmControlPlane (item metadata) ∅
    (.controlPlane .kubeadmControlPlane) change

/-- The template is in order, with metadata and without. -/
theorem ordered_object : (object none).Ordered ∧ (object (some (.obj []))).Ordered := by
  decide +kernel

/-- What is written for the template with a label is in order, since it is read from an object
that is. -/
theorem ordered_toJson_labels :
    (TemplateKind.kubeadmControlPlane.shape.toJson (template labels)).Ordered := by
  have hread : TemplateKind.kubeadmControlPlane.shape.Reads
      (object (some (.obj [("labels", .obj [("tier", .str "gold")])]))) (template labels) :=
    ⟨by decide +kernel, rfl⟩
  exact Shape.ordered_toJson _ (TemplateKind.regular_shape _) hread

end Labelled

/-- The template can be labelled if it has metadata to put the labels into, and only then. -/
theorem mutate_eq_none_iff_labelled :
    (∃ f, (Labelled.mutated none).2 = some (.patch (.failedPatch "uid" f))) ∧
      (Labelled.object (some (.obj []))).Reaches
        (TemplateKind.kubeadmControlPlane.shape.toJson (Labelled.template .blank))
        (TemplateKind.kubeadmControlPlane.shape.toJson (Labelled.template Labelled.labels)) := by
  have hchange : Labelled.change (Labelled.template .blank) =
      .ok (Labelled.template Labelled.labels) := rfl
  constructor
  · refine (mutate_eq_none_iff .empty .full (Labelled.item none) ∅
      (.controlPlane .kubeadmControlPlane) Labelled.ordered_object.1 rfl rfl hchange
      Labelled.ordered_toJson_labels).2.2 fun h => ?_
    obtain ⟨r, hr, -⟩ := h ["metadata"] _ _ rfl rfl rfl
    cases hr
  · exact (mutate_eq_none_iff .empty .full (Labelled.item (some (.obj []))) ∅
      (.controlPlane .kubeadmControlPlane) Labelled.ordered_object.2 rfl rfl hchange
      Labelled.ordered_toJson_labels).1.1 rfl

/-- An object that is read and changed need not have all places that the change touches. -/
theorem not_mutate_eq_none : ¬ ∀ (registry : ObjectRegistry) (k : TemplateKind)
    (item : GeneratePatches.RequestItem) (vars : Variables) (selector : PatchSelector)
    (change : Mutation.Change k) (before after : k.Object), item.object.Ordered →
      selector.selects item.object item.holderReference vars = true →
      registry.decodeAs k item.object = .ok before → change before = .ok after →
      (k.shape.toJson after).Ordered →
      (Ledger.empty.mutate registry k item vars selector change).2 = none := by
  intro h
  have hnone := h .full .kubeadmControlPlane (Labelled.item none) ∅
    (.controlPlane .kubeadmControlPlane) Labelled.change (Labelled.template .blank)
    (Labelled.template Labelled.labels) Labelled.ordered_object.1 rfl rfl rfl
    Labelled.ordered_toJson_labels
  exact absurd hnone (by decide +kernel)

end Ledger

end TopologyHooks
