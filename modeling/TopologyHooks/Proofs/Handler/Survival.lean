import TopologyHooks.Proofs.Feature.Survival
import TopologyHooks.Proofs.Handler.Idempotence

/-!
# What is not modelled survives patches

Main statement: when a handler of the extension answers with patches, the patch of an object leaves
every member that the shape of its kind does not know where it is and as it is, at any depth
(`Handler.survives_generatePatches`).
-/

set_option autoImplicit false

namespace TopologyHooks

open Patch

namespace Mutation.Run

variable {registry : ObjectRegistry} {vars : Variables} {holder : HolderReference}
  {ms : List Mutator} {object last : Json} {patch : Patch}

/-- What is not modelled of an object survives its way through mutators whose changes preserve
it. -/
theorem survives (h : Run registry vars holder ms object patch last)
    (hms : ∀ m ∈ ms, m.Aimed registry ∧ m.Gentle ∧ m.Preserving) (ho : object.Ordered)
    {k : TemplateKind} (hk : object.Names k) {path : List String} {v : Json}
    (hstray : k.shape.Stray object path) (hv : object.at? path = some v) :
    k.shape.Stray last path ∧ last.at? path = some v := by
  induction h with
  | done object => exact ⟨hstray, hv⟩
  | idle _ _ ih => exact ih (fun m hm => hms m (List.mem_cons_of_mem _ hm)) ho hk hstray hv
  | @change m rest object next last patch f before after hf hb ha hnext _ ih =>
    obtain ⟨haimed, hgentle, hpres⟩ := hms m List.mem_cons_self
    obtain rfl : m.kind = k := (haimed.names ⟨f, hf⟩).unique hk
    have hd := ObjectRegistry.decodeAs_eq_ok_iff.1 hb
    obtain ⟨ho', hsame, -⟩ := decode_of_run?_diff ho hd (hgentle.of_changeFor hf ha) hnext
    obtain ⟨-, -, hread⟩ := ObjectRegistry.decode_eq_ok_iff.1 hd
    obtain ⟨-, value, rfl⟩ := Mutator.exists_of_changeFor hf
    obtain ⟨hstray', hv'⟩ := hpres _ value before after ha ⟨ho, hread⟩ hnext hstray hv
    exact ih (fun m hm => hms m (List.mem_cons_of_mem _ hm)) ho' (hk.congr hsame) hstray' hv'

end Mutation.Run

namespace Handler

/-- When a handler of the extension answers with patches, every member of an object that the shape
of its kind does not know is at the same place after the object was patched, with the same
value. -/
theorem survives_generatePatches {registry : ObjectRegistry} {h : Handler}
    (hh : docker registry = .ok h ∨ aws registry = .ok h) (request : GeneratePatches.Request)
    (token : CancellationToken) (hnd : (request.items.map (·.uid)).Nodup)
    (hord : ∀ item ∈ request.items, item.object.Ordered)
    (hok : (h.generatePatches request token).status = .success) :
    ∀ item ∈ request.items, ∃ (patch : Patch) (last : Json),
      GeneratePatches.Carries (h.generatePatches request token).items item.uid patch ∧
      patch.apply item.object = .ok last ∧
      ∀ (k : TemplateKind) (path : List String) (v : Json), item.object.Names k →
        k.shape.Stray item.object path → item.object.at? path = some v →
        last.at? path = some v := by
  intro item hitem
  have hms := mutators_ofProvider hh
  obtain ⟨patch, last, hrun, hcarries⟩ := exists_run_of_generatePatches hok hnd hitem
  refine ⟨patch, last, hcarries, apply_eq_ok_iff.2 hrun.run?_eq, fun k path v hk hstray hv => ?_⟩
  have hboth : ∀ m ∈ h.mutators, m.Aimed h.registry ∧ m.Gentle ∧ m.Preserving := fun m hm =>
    ⟨h.aimed_of_mem hm, (Feature.again_of_mem hms hm).gentle, Feature.preserving_of_mem hms m hm⟩
  exact (hrun.survives hboth (hord item hitem) hk hstray hv).2

/-- Where the member of the user stands that is not modelled. -/
def Accounts.path : List String :=
  ["spec", "template", "spec", "kubeadmConfigSpec", "users", "0", "gecos"]

/-- The patch of the handler for Docker leaves the member of the user. -/
theorem survives_generatePatches_accounts : ∃ h, docker .full = .ok h ∧
    (h.generatePatches Accounts.request .never).items.map (·.uid) = ["uid"] ∧
    ∃ (patch : Patch) (last : Json),
      GeneratePatches.Carries (h.generatePatches Accounts.request .never).items "uid" patch ∧
      patch.apply Accounts.item.object = .ok last ∧
      last.at? Accounts.path = some (.str "Operator") := by
  obtain ⟨h, hh, hok, hitems⟩ := Accounts.exists_docker
  obtain ⟨patch, last, hcarries, happly, hstray⟩ :=
    survives_generatePatches (.inl hh) Accounts.request .never (by decide) Accounts.ordered_object
      hok Accounts.item (List.mem_singleton_self _)
  refine ⟨h, hh, hitems, patch, last, hcarries, happly, ?_⟩
  refine hstray .kubeadmControlPlane Accounts.path _ ⟨rfl, rfl⟩ ?_ rfl
  -- no field of a user has the last key of the path
  exact ⟨_, rfl, _, rfl, _, rfl, _, rfl, _, rfl, 0, _, rfl, rfl, _, rfl, trivial⟩

end Handler

end TopologyHooks
