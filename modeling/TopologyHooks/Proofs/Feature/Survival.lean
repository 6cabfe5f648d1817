import TopologyHooks.Proofs.Feature.Concern
import TopologyHooks.Proofs.Shape.Stray

/-!
# Mutators preserve what is not modelled

Whatever a mutator of the extension changes, replaying the change leaves all members of an object
that its shape does not know (`Feature.preserving_of_mem`). Files, users and what describes an etcd
or an API server have no records inside, so that they can be replaced by anything; all around them
stays where it is.
-/

set_option autoImplicit false

namespace TopologyHooks

open Patch

/-! ## Templates -/

namespace Template

variable {σ : Type} {title key : String} {absent : σ} {inner : Shape σ} {a b : σ}

/-- A change inside of a member that is always written preserves what is not modelled if it does so
there. -/
theorem preserves_boxed (hr : (boxed title key absent inner).Regular) (h : inner.Preserves a b) :
    (boxed title key absent inner).Preserves a b := by
  refine Shape.preserves_record hr ⟨?_, trivial⟩
  exact Presence.preserves (by simp [Presence.skips]) (by simp [Presence.skips]) h

end Template

/-- A change of the specification preserves what is not modelled if it does so there. -/
theorem TemplateKind.preserves_shape {k : TemplateKind} {t t' : k.Object}
    (h : k.innerShape.Preserves t.spec t'.spec) (ht : t' = { t with spec := t'.spec }) :
    k.shape.Preserves t t' := by
  have hspec : (Template.specShape k.title k.blankSpec k.innerShape).Preserves t.spec t'.spec := by
    have ha := k.follows_innerShape none k.blankSpec
    refine Template.preserves_boxed (Template.regular_specShape ha k.regular_innerShape) ?_
    exact Template.preserves_boxed (Template.regular_boxed (by decide) ha k.regular_innerShape) h
  rw [ht]
  refine Shape.preserves_record k.regular_shape ⟨?_, ?_, ?_, ?_, trivial⟩
  · exact Presence.preserves_of_closed trivial
  · exact Presence.preserves_of_closed trivial
  · exact Presence.preserves_refl _ ObjectMeta.regular_shape.2 _
  · exact Presence.preserves (by simp [Presence.skips]) (by simp [Presence.skips]) hspec

/-! ## Nodes -/

namespace Kubeadm

/-- No known member of a file can hold an unknown one, so every change of it preserves what is not
modelled. -/
theorem File.preserves (f f' : File) : File.shape.Preserves f f' :=
  Shape.preserves_record File.regular_shape.2
    (Fields.preserves_of_closed ⟨trivial, trivial, trivial, trivial, trivial⟩)

/-- No known member of a user can hold an unknown one, so every change of it preserves what is not
modelled. -/
theorem User.preserves (u u' : User) : User.shape.Preserves u u' :=
  Shape.preserves_record User.regular_shape.2
    (Fields.preserves_of_closed ⟨trivial, trivial, trivial, trivial, trivial, trivial⟩)

/-- No known member of an etcd on the nodes can hold an unknown one, so every change of it preserves
what is not modelled. -/
theorem LocalEtcd.preserves (e e' : LocalEtcd) : LocalEtcd.shape.Preserves e e' :=
  Shape.preserves_record LocalEtcd.regular_shape.2
    (Fields.preserves_of_closed ⟨trivial, trivial, trivial, trivial⟩)

/-- No known member of an API server can hold an unknown one, so every change of it preserves what
is not modelled. -/
theorem ApiServer.preserves (s s' : ApiServer) : ApiServer.shape.Preserves s s' :=
  Shape.preserves_record ApiServer.regular_shape.2
    (Fields.preserves_of_closed ⟨trivial, trivial, trivial⟩)

/-- Whether an etcd on the nodes is not taken away. -/
def EtcdConfiguration.Keeps (e e' : EtcdConfiguration) : Prop :=
  e.onNodes.isSome = true → e'.onNodes.isSome = true

/-- Where the etcd on the nodes is not taken away, the settings of etcd preserve what is not
modelled. -/
theorem EtcdConfiguration.Keeps.preserves {e e' : EtcdConfiguration} (h : e.Keeps e') :
    EtcdConfiguration.shape.Preserves e e' := by
  refine Shape.preserves_record EtcdConfiguration.regular_shape.2 ⟨?_, trivial⟩
  refine Presence.preserves_optional ?_
  intro a ha
  obtain ⟨b, hb⟩ := Option.isSome_iff_exists.1 (h (Option.isSome_of_eq_some ha))
  exact ⟨b, hb, LocalEtcd.preserves a b⟩

/-- Whether no settings are taken away that may hold what is not modelled. -/
structure ClusterConfiguration.Keeps (c c' : ClusterConfiguration) : Prop where
  etcd : ∀ e, c.etcd = some e → ∃ e', c'.etcd = some e' ∧ e.Keeps e'
  apiServer : c.apiServer.isSome = true → c'.apiServer.isSome = true

/-- Where no settings are taken away, those of the components preserve what is not modelled. -/
theorem ClusterConfiguration.Keeps.preserves {c c' : ClusterConfiguration} (h : c.Keeps c') :
    ClusterConfiguration.shape.Preserves c c' := by
  refine Shape.preserves_record ClusterConfiguration.regular_shape.2 ⟨?_, ?_, ?_, trivial⟩
  · exact Presence.preserves_of_closed trivial
  · refine Presence.preserves_optional ?_
    intro e he
    obtain ⟨e', he', hkeep⟩ := h.etcd e he
    exact ⟨e', he', hkeep.preserves⟩
  · refine Presence.preserves_optional ?_
    intro server hserver
    obtain ⟨server', hserver'⟩ :=
      Option.isSome_iff_exists.1 (h.apiServer (Option.isSome_of_eq_some hserver))
    exact ⟨server', hserver', ApiServer.preserves server server'⟩

end Kubeadm

namespace KubeadmConfigSpec

open Kubeadm

/-- Whether nothing of a set-up is taken away that may hold what is not modelled. -/
structure Keeps (s s' : KubeadmConfigSpec) : Prop where
  cluster : ∀ c, s.clusterConfiguration = some c →
    ∃ c', s'.clusterConfiguration = some c' ∧ c.Keeps c'
  files : s.files.length ≤ s'.files.length
  users : s.users.length ≤ s'.users.length

/-- A place of a list is one of every list that is no shorter. -/
theorem exists_getElem?_of_length_le {α : Type} {xs ys : List α} (h : xs.length ≤ ys.length)
    {i : Nat} {x : α} (hx : xs[i]? = some x) : ∃ y, ys[i]? = some y := by
  obtain ⟨hi, -⟩ := List.getElem?_eq_some_iff.1 hx
  exact ⟨_, List.getElem?_eq_getElem (Nat.lt_of_lt_of_le hi h)⟩

/-- Where nothing is taken away, a set-up preserves what is not modelled. -/
theorem Keeps.preserves {s s' : KubeadmConfigSpec} (h : s.Keeps s') : shape.Preserves s s' := by
  refine Shape.preserves_record regular_shape.2 ⟨?_, ?_, ?_, ?_, ?_, trivial⟩
  · refine Presence.preserves_optional ?_
    intro c hc
    obtain ⟨c', hc', hkeep⟩ := h.cluster c hc
    exact ⟨c', hc', hkeep.preserves⟩
  · refine Presence.preserves_listed ?_
    intro i f hf
    obtain ⟨f', hf'⟩ := exists_getElem?_of_length_le h.files hf
    exact ⟨f', hf', File.preserves f f'⟩
  · exact Presence.preserves_of_closed trivial
  · exact Presence.preserves_of_closed trivial
  · refine Presence.preserves_listed ?_
    intro i u hu
    obtain ⟨u', hu'⟩ := exists_getElem?_of_length_le h.users hu
    exact ⟨u', hu', User.preserves u u'⟩

variable {s s' : KubeadmConfigSpec}

/-- Nothing is taken away by changing nothing. -/
theorem Keeps.refl (s : KubeadmConfigSpec) : s.Keeps s where
  cluster := fun c hc => ⟨c, hc, fun e he => ⟨e, he, id⟩, id⟩
  files := Nat.le_refl _
  users := Nat.le_refl _

/-- A change of the settings takes nothing of the set-up away if it takes no settings away. -/
theorem keeps_modifyCluster {change : ClusterConfiguration → ClusterConfiguration}
    (h : ∀ c : ClusterConfiguration, c.Keeps (change c)) : s.Keeps (s.modifyCluster change) where
  cluster := fun c hc => ⟨change c, by rw [modifyCluster, hc, Option.getD_some], h c⟩
  files := Nat.le_refl _
  users := Nat.le_refl _

/-- A script takes nothing away. -/
theorem keeps_withScript (file : File) (command : String) :
    s.Keeps (s.withScript file command) where
  cluster := (Keeps.refl s).cluster
  files := length_le_length_upsert s.files
  users := Nat.le_refl _

end KubeadmConfigSpec

namespace Feature

open Kubeadm

variable {s s' : KubeadmConfigSpec}

/-- Setting the repository of images takes nothing away. -/
theorem keeps_setImageRepository (repository : String) :
    s.Keeps (setImageRepository repository s) :=
  KubeadmConfigSpec.keeps_modifyCluster fun _ => ⟨fun e he => ⟨e, he, id⟩, id⟩

/-- Setting the image of etcd takes nothing away. -/
theorem keeps_setEtcdImage (etcd : ClusterConfig.Etcd) : s.Keeps (setEtcdImage etcd s) := by
  unfold setEtcdImage
  split
  · exact .refl s
  · split
    · exact .refl s
    · exact KubeadmConfigSpec.keeps_modifyCluster fun c =>
        ⟨fun e he => ⟨_, rfl, fun _ => rfl⟩, id⟩

/-- Adding names for the certificate of the API server takes nothing away. -/
theorem keeps_addCertSANs (names : List String) : s.Keeps (addCertSANs names s) := by
  unfold addCertSANs
  split
  · exact .refl s
  · exact KubeadmConfigSpec.keeps_modifyCluster fun c =>
      ⟨fun e he => ⟨e, he, id⟩, fun _ => rfl⟩

/-- Configuring a proxy takes nothing away. -/
theorem keeps_configure_proxy (proxy : ClusterConfig.Proxy) :
    s.Keeps (Proxy.configure proxy s) := by
  unfold Proxy.configure
  split
  · exact .refl s
  · exact KubeadmConfigSpec.keeps_withScript _ _

/-- Configuring a mirror takes nothing away. -/
theorem keeps_configure_mirror {mirror : ClusterConfig.Mirror}
    (h : Mirror.configure mirror s = .ok s') : s.Keeps s' := by
  rw [Mirror.configure] at h
  split at h
  · cases h
  · rw [← Except.ok.inj h]
    exact KubeadmConfigSpec.keeps_withScript _ _

/-- Configuring users takes nothing away. -/
theorem keeps_configure_users {accounts : List ClusterConfig.User}
    (h : Users.configure accounts s = .ok s') : s.Keeps s' := by
  obtain ⟨-, rfl⟩ := configure_eq_ok_iff.1 h
  exact ⟨(KubeadmConfigSpec.Keeps.refl s).cluster, Nat.le_refl _, length_le_length_upsertAll _ _⟩

end Feature

/-! ## Machines and clusters -/

/-- No known member of a machine on Docker can hold an unknown one, so every change of it preserves
what is not modelled. -/
theorem Docker.MachineSpec.preserves (s s' : MachineSpec) : MachineSpec.shape.Preserves s s' :=
  Shape.preserves_record MachineSpec.regular_shape.2
    (Fields.preserves_of_closed ⟨trivial, trivial, trivial⟩)

/-- No known member of a machine on AWS can hold an unknown one, so every change of it preserves
what is not modelled. -/
theorem Aws.MachineSpec.preserves (s s' : MachineSpec) : MachineSpec.shape.Preserves s s' :=
  Shape.preserves_record MachineSpec.regular_shape.2
    (Fields.preserves_of_closed ⟨trivial, trivial, trivial, trivial⟩)

/-- No known member of a cluster on AWS can hold an unknown one, so every change of it preserves
what is not modelled. -/
theorem Aws.ClusterSpec.preserves (s s' : ClusterSpec) : ClusterSpec.shape.Preserves s s' :=
  Shape.preserves_record ClusterSpec.regular_shape.2
    (Fields.preserves_of_closed ⟨trivial, trivial, trivial⟩)

/-! ## Mutators -/

/-- Whether all changes that a mutator makes preserve what is not modelled. -/
def Mutator.Preserving (m : Mutator) : Prop :=
  ∀ ctx value t t', m.change ctx value t = .ok t' → m.kind.shape.Preserves t t'

namespace Feature

/-- A change of a specification preserves what is not modelled in the whole template if it does so
there. -/
theorem preserves_onSpec {k : TemplateKind} {change : k.Spec → Except Error k.Spec}
    (h : ∀ s s', change s = .ok s' → k.innerShape.Preserves s s') {t t' : k.Object}
    (ht : onSpec change t = .ok t') : k.shape.Preserves t t' := by
  obtain ⟨hs, ht⟩ := onSpec_eq_ok_iff.1 ht
  exact TemplateKind.preserves_shape (h _ _ hs) ht

/-- A mutator of a specification preserves what is not modelled if its changes do so there. -/
theorem preserving_mutator {α : Type} {k : TemplateKind} {name : String} {source : VariableRef}
    {selector : TemplateKind → PatchSelector} {input : Shape α}
    {change : α → k.Spec → Except Error k.Spec}
    (h : ∀ value s s', change value s = .ok s' → k.innerShape.Preserves s s') :
    (mutator name source k selector input change).Preserving :=
  fun _ value _ _ => preserves_onSpec (h value)

section

variable {α : Type} {name : String} {source : VariableRef} {input : Shape α}
  {change : α → KubeadmConfigSpec → Except Error KubeadmConfigSpec}

/-- A mutator of control planes preserves what is not modelled if its changes of set-ups take
nothing away. -/
theorem preserving_onControlPlane
    (h : ∀ value s s', change value s = .ok s' → KubeadmConfigSpec.Keeps s s') :
    (onControlPlane name source input change).Preserving := by
  refine preserving_mutator (k := .kubeadmControlPlane) ?_
  intro value s s' hs
  exact Template.preserves_boxed (TemplateKind.regular_innerShape .kubeadmControlPlane)
    (h value s s' hs).preserves

/-- A mutator of workers preserves what is not modelled if its changes of set-ups take nothing
away. -/
theorem preserving_onWorkers
    (h : ∀ value s s', change value s = .ok s' → KubeadmConfigSpec.Keeps s s') :
    (onWorkers name source input change).Preserving :=
  preserving_mutator (k := .kubeadmConfig) fun value s s' hs => (h value s s' hs).preserves

end

/-- All mutators for nodes preserve what is not modelled. -/
theorem preserving_shared : ∀ m ∈ shared, m.Preserving := by
  have hproxy (proxy : ClusterConfig.Proxy) (s s' : KubeadmConfigSpec)
      (h : Except.ok (Proxy.configure proxy s) = (.ok s' : Except Error _)) : s.Keeps s' :=
    Except.ok.inj h ▸ keeps_configure_proxy proxy
  simp only [shared, imageRepository, etcdImage, certSANs, proxy, mirror, users,
    List.forall_mem_append, List.forall_mem_cons, List.not_mem_nil, false_imp_iff, implies_true,
    and_true]
  refine ⟨⟨⟨⟨⟨?_, ?_⟩, ?_⟩, ?_, ?_⟩, ?_, ?_⟩, ?_, ?_⟩
  · exact preserving_onControlPlane fun repository s s' h =>
      Except.ok.inj h ▸ keeps_setImageRepository repository
  · exact preserving_onControlPlane fun etcd s s' h => Except.ok.inj h ▸ keeps_setEtcdImage etcd
  · exact preserving_onControlPlane fun names s s' h => Except.ok.inj h ▸ keeps_addCertSANs names
  · exact preserving_onControlPlane hproxy
  · exact preserving_onWorkers hproxy
  · exact preserving_onControlPlane fun _ _ _ => keeps_configure_mirror
  · exact preserving_onWorkers fun _ _ _ => keeps_configure_mirror
  · exact preserving_onControlPlane fun _ _ _ => keeps_configure_users
  · exact preserving_onWorkers fun _ _ _ => keeps_configure_users

/-- The mutators of images on Docker preserve what is not modelled. -/
theorem preserving_dockerImages : ∀ m ∈ dockerImages, m.Preserving := by
  have hmachine (name : String) (source : VariableRef) (selector : TemplateKind → PatchSelector)
      (versions : List (List String)) :
      (NodeImage.mutator name source selector versions).Preserving := fun _ _ _ _ =>
    preserves_onSpec (k := .dockerMachine) fun s s' _ => Docker.MachineSpec.preserves s s'
  simp only [dockerImages, List.forall_mem_cons, List.not_mem_nil, false_imp_iff, implies_true,
    and_true]
  exact ⟨hmachine _ _ _ _, hmachine _ _ _ _⟩

/-- The mutators for AWS preserve what is not modelled. -/
theorem preserving_awsMachines : ∀ m ∈ awsMachines, m.Preserving := by
  simp only [awsMachines, List.forall_mem_cons, List.not_mem_nil, false_imp_iff, implies_true,
    and_true]
  refine ⟨?_, ?_, ?_⟩
  · exact preserving_mutator fun _ s s' _ => Aws.ClusterSpec.preserves s s'
  · exact preserving_mutator fun _ s s' _ => Aws.MachineSpec.preserves s s'
  · exact preserving_mutator fun _ s s' _ => Aws.MachineSpec.preserves s s'

/-- All changes that the mutators of a provider make preserve what is not modelled. -/
theorem preserving_of_mem {ms : List Mutator} (h : OfProvider ms) : ∀ m ∈ ms, m.Preserving := by
  rcases h with rfl | rfl
  · exact List.forall_mem_append.2 ⟨preserving_shared, preserving_dockerImages⟩
  · exact List.forall_mem_append.2 ⟨preserving_shared, preserving_awsMachines⟩

end Feature

end TopologyHooks
