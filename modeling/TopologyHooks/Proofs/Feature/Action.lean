import TopologyHooks.Proofs.Feature.Concern
import TopologyHooks.Proofs.Shape.Detached

/-!
# Features that do not need each other

What a feature of nodes does is one of few actions (`Feature.Action`), within the part of the set-up
that it is about. Of two actions within different parts, the second can be replayed without the
first, and so can every change that a mutator of the extension makes: it does not rely on what the
mutators before it have put into the object (`Feature.pairwise_detached`).
-/

set_option autoImplicit false

namespace TopologyHooks

open Kubeadm

/-! ## Templates -/

namespace Template

variable {σ : Type} {title key : String} {absent : σ} {inner : Shape σ} {a b c d : σ}

/-- Changes inside of a member that is always written are detached if they are so for what the
member holds. -/
theorem detached_boxed (hk : Patch.OutsideArrays key) (hi : inner.Regular)
    (hf : ∀ o b, inner.Follows o b) (hidle : b = a → c = b → d = a) (h : inner.Detached a b c d) :
    (boxed title key absent inner).Detached a b c d := by
  refine Shape.detached_record (regular_boxed hk (hf none absent) hi)
    (follows_boxed_iff.2 (hf _ b)) (follows_boxed_iff.2 (hf _ c)) hidle ⟨.inr (.inr ?_), trivial⟩
  exact Presence.detached_defaulted hi hf hidle h

end Template

namespace Mutation

/-- Whether of two changes of a template, made one after the other, the second can be made and
replayed without the first. -/
def Detached {k : TemplateKind} (f g : Change k) : Prop :=
  ∀ ⦃t t₁ t₂ : k.Object⦄, f t = .ok t₁ → g t₁ = .ok t₂ →
    ∃ u, g t = .ok u ∧ k.shape.Detached t t₁ t₂ u

end Mutation

/-- Changes of what a template specifies are detached if they are so for the innermost
specification. -/
theorem TemplateKind.detached_specShape {k : TemplateKind} {a b c d : k.Spec}
    (hidle : b = a → c = b → d = a) (h : k.innerShape.Detached a b c d) :
    (Template.specShape k.title k.blankSpec k.innerShape).Detached a b c d := by
  have hr := k.regular_innerShape
  have hf := k.follows_innerShape
  refine Template.detached_boxed (by decide) (Template.regular_boxed (by decide) (hf none _) hr)
    (fun o b => Template.follows_boxed_iff.2 (hf o b)) hidle ?_
  exact Template.detached_boxed (by decide) hr hf hidle h

/-- If neither of two changes changes anything, the second one alone does not, either. -/
theorem Feature.eq_of_idle {σ : Type} {g : σ → Except Error σ} {s s₁ s₂ u : σ}
    (h : g s₁ = .ok s₂) (hu : g s = .ok u) (h₁ : s₁ = s) (h₂ : s₂ = s₁) : u = s := by
  rw [h₁, hu, Except.ok.injEq] at h
  rw [h, h₂, h₁]

/-- Two changes of the specification of templates are detached if that is so for what they
specify. -/
theorem Feature.detached_onSpec {k : TemplateKind} {f g : k.Spec → Except Error k.Spec}
    (h : ∀ ⦃s s₁ s₂⦄, f s = .ok s₁ → g s₁ = .ok s₂ →
      ∃ u, g s = .ok u ∧ k.innerShape.Detached s s₁ s₂ u) :
    Mutation.Detached (onSpec f) (onSpec g) := by
  intro t t₁ t₂ hf hg
  obtain ⟨hs, ht⟩ := onSpec_eq_ok_iff.1 hf
  obtain ⟨hs', ht'⟩ := onSpec_eq_ok_iff.1 hg
  obtain ⟨u, hu, hdet⟩ := h hs hs'
  have hidle : t₁.spec = t.spec → t₂.spec = t₁.spec → u = t.spec := eq_of_idle hs' hu
  refine ⟨{ t with spec := u }, onSpec_eq_ok_iff.2 ⟨hu, rfl⟩, ?_⟩
  -- the version, the kind and the metadata stay as they are in both changes
  refine Shape.detached_record k.regular_shape (gentle_onSpec hf).follows
    (gentle_onSpec hg).follows ?_
    ⟨.inl ⟨?_, ?_⟩, .inl ⟨?_, ?_⟩, .inl ⟨?_, ?_⟩, .inr (.inr ?_), trivial⟩
  · rintro rfl rfl
    rw [hidle rfl rfl]
  · rw [ht]
  · rw [ht', ht]
  · rw [ht]
  · rw [ht', ht]
  · rw [ht]
  · rw [ht', ht]
  · have hf := k.follows_innerShape
    exact Presence.detached_defaulted
      (Template.regular_specShape (hf none _) k.regular_innerShape)
      (fun o b => Template.follows_specShape_iff.2 (hf o b)) hidle
      (TemplateKind.detached_specShape hidle hdet)

/-! ## Set-up of nodes -/

namespace Feature

/-- What a feature of nodes does to their set-up, if anything: it changes a setting of the
components, adds a script or changes the users. -/
inductive Action
  | nothing
  | repository (change : Option String → Option String)
  | etcd (change : Option EtcdConfiguration → Option EtcdConfiguration)
  | server (change : Option ApiServer → Option ApiServer)
  | script (file : File) (command : String)
  | users (change : List User → List User)

namespace Action

/-- What an action makes of the settings of the components. -/
def onSettings : Action → ClusterConfiguration → ClusterConfiguration
  | repository change, c => { c with imageRepository := change c.imageRepository }
  | etcd change, c => { c with etcd := change c.etcd }
  | server change, c => { c with apiServer := change c.apiServer }
  | nothing, c | script _ _, c | users _, c => c

/-- What an action makes of a set-up. -/
def run : Action → KubeadmConfigSpec → KubeadmConfigSpec
  | nothing, s => s
  | repository change, s => s.modifyCluster (repository change).onSettings
  | etcd change, s => s.modifyCluster (etcd change).onSettings
  | server change, s => s.modifyCluster (server change).onSettings
  | script file command, s => s.withScript file command
  | users change, s => { s with users := change s.users }

/-- Whether an action keeps to a part of the set-up. -/
def Within : Action → Part → Prop
  | nothing, _ => True
  | repository _, part => part = .imageRepository
  | etcd _, part => part = .etcd
  | server _, part => part = .apiServer
  | script file _, part =>
    part = .proxy ∧ file.path = Proxy.dropInPath ∨ part = .mirror ∧ file.path = Mirror.hostsPath
  | users _, part => part = .users

variable {x y : Action} {part part' : Part}

/-- Scripts of different parts stand at different paths. -/
theorem path_ne {file file' : File} {command command' : String}
    (hx : (script file command).Within part) (hy : (script file' command').Within part')
    (hne : part ≠ part') : file.path ≠ file'.path := by
  have hpath : Proxy.dropInPath ≠ Mirror.hostsPath := by decide
  obtain ⟨rfl, hx⟩ | ⟨rfl, hx⟩ := hx <;> obtain ⟨rfl, hy⟩ | ⟨rfl, hy⟩ := hy
  · exact absurd rfl hne
  · rwa [hx, hy]
  · rw [hx, hy]
    exact hpath.symm
  · exact absurd rfl hne

/-! ### Settings of the components -/

/-- Changes of the settings of the components are detached as changes of the whole set-up's member
for them. -/
theorem detached_modifyCluster {f g : ClusterConfiguration → ClusterConfiguration}
    (h : ∀ c, ClusterConfiguration.shape.Detached c (f c) (g (f c)) (g c)) (s : KubeadmConfigSpec) :
    (Presence.omitted none Option.isNone).Detached ClusterConfiguration.shape.nullable
      s.clusterConfiguration (s.modifyCluster f).clusterConfiguration
      ((s.modifyCluster f).modifyCluster g).clusterConfiguration
      (s.modifyCluster g).clusterConfiguration := by
  refine Presence.detached_optional fun c d hc hd => ?_
  simp only [KubeadmConfigSpec.modifyCluster, hc, Option.getD_some, Option.some.injEq] at hd ⊢
  exact ⟨f c, g (f c), rfl, rfl, hd ▸ h c⟩

/-- Actions within different parts change different settings. -/
theorem detached_onSettings (hx : x.Within part) (hy : y.Within part') (hne : part ≠ part')
    (c : ClusterConfiguration) : ClusterConfiguration.shape.Detached c (x.onSettings c)
      (y.onSettings (x.onSettings c)) (y.onSettings c) := by
  refine Shape.detached_record ClusterConfiguration.regular_shape.2
    (ClusterConfiguration.follows _ _) (ClusterConfiguration.follows _ _) ?_ ?_
  · intro hidle hidle'
    rwa [hidle] at hidle'
  · cases x <;> cases y <;>
      first
      | exact ⟨.inl ⟨rfl, rfl⟩, .inl ⟨rfl, rfl⟩, .inl ⟨rfl, rfl⟩, trivial⟩
      | exact ⟨.inr (.inl rfl), .inl ⟨rfl, rfl⟩, .inl ⟨rfl, rfl⟩, trivial⟩
      | exact ⟨.inl ⟨rfl, rfl⟩, .inr (.inl rfl), .inl ⟨rfl, rfl⟩, trivial⟩
      | exact ⟨.inl ⟨rfl, rfl⟩, .inl ⟨rfl, rfl⟩, .inr (.inl rfl), trivial⟩
      | exact absurd (hx.trans hy.symm) hne

/-- Of two actions within different parts, the second one leaves the settings of the components
alone, is not disturbed in them by the first one, or is detached from it there. -/
theorem detached_cluster (hx : x.Within part) (hy : y.Within part') (hne : part ≠ part')
    (s : KubeadmConfigSpec) :
    (x.run s).clusterConfiguration = s.clusterConfiguration ∧
        (y.run s).clusterConfiguration = (y.run (x.run s)).clusterConfiguration ∨
      (y.run s).clusterConfiguration = s.clusterConfiguration ∨
      (Presence.omitted none Option.isNone).Detached ClusterConfiguration.shape.nullable
        s.clusterConfiguration (x.run s).clusterConfiguration
        (y.run (x.run s)).clusterConfiguration (y.run s).clusterConfiguration := by
  cases x <;> cases y <;>
    first
    | exact .inl ⟨rfl, rfl⟩
    | exact .inr (.inl rfl)
    | exact .inr (.inr (detached_modifyCluster (detached_onSettings hx hy hne) s))

/-! ### Files, commands and users -/

/-- Of two actions within different parts, the second one leaves the files alone, is not disturbed
in them by the first one, or is detached from it there. -/
theorem detached_files (hx : x.Within part) (hy : y.Within part') (hne : part ≠ part')
    (s : KubeadmConfigSpec) :
    (x.run s).files = s.files ∧ (y.run s).files = (y.run (x.run s)).files ∨
      (y.run s).files = s.files ∨
      (Presence.omitted [] List.isEmpty).Detached File.shape.list s.files (x.run s).files
        (y.run (x.run s)).files (y.run s).files := by
  cases x <;> cases y <;>
    first
    | exact .inl ⟨rfl, rfl⟩
    | exact .inr (.inl rfl)
    | refine .inr (.inr (Presence.detached_listed fun i f f' hf hf' => ?_))
  obtain ⟨g, g', hg, hg', ⟨rfl, rfl⟩ | rfl⟩ := getElem?_upsert_upsert (path_ne hx hy hne) hf hf'
  · exact ⟨_, _, hg, hg', .of_idle File.regular_shape.2 _ _⟩
  · exact ⟨_, _, hg, hg', .of_self File.regular_shape.2 _ _ _⟩

/-- Of two actions, the second one leaves the commands alone, is not disturbed in them by the first
one, or is detached from it there. -/
theorem detached_commands (s : KubeadmConfigSpec) :
    (x.run s).preKubeadmCommands = s.preKubeadmCommands ∧
        (y.run s).preKubeadmCommands = (y.run (x.run s)).preKubeadmCommands ∨
      (y.run s).preKubeadmCommands = s.preKubeadmCommands ∨
      (Presence.omitted [] List.isEmpty).Detached Shape.text.list s.preKubeadmCommands
        (x.run s).preKubeadmCommands (y.run (x.run s)).preKubeadmCommands
        (y.run s).preKubeadmCommands := by
  cases x <;> cases y <;>
    first
    | exact .inl ⟨rfl, rfl⟩
    | exact .inr (.inl rfl)
    | refine .inr (.inr (Presence.detached_listed_of_exact (s := .text) (fun _ => trivial)
        prefix_appendNew.length_le ?_))
  exact (prefix_appendNew.trans prefix_appendNew).length_le

/-- No action changes the commands that run last. -/
theorem postKubeadmCommands_run (x : Action) (s : KubeadmConfigSpec) :
    (x.run s).postKubeadmCommands = s.postKubeadmCommands := by
  cases x <;> rfl

/-- Of two actions within different parts, one at most changes the users. -/
theorem detached_users (hx : x.Within part) (hy : y.Within part') (hne : part ≠ part')
    (s : KubeadmConfigSpec) :
    (x.run s).users = s.users ∧ (y.run s).users = (y.run (x.run s)).users ∨
      (y.run s).users = s.users := by
  cases x <;> cases y <;>
    first
    | exact .inl ⟨rfl, rfl⟩
    | exact .inr rfl
    | exact absurd (hx.trans hy.symm) hne

/-- Of two actions within different parts, the second can be replayed without the first. -/
theorem detached_run (hx : x.Within part) (hy : y.Within part') (hne : part ≠ part')
    (s : KubeadmConfigSpec) :
    KubeadmConfigSpec.shape.Detached s (x.run s) (y.run (x.run s)) (y.run s) := by
  refine Shape.detached_record KubeadmConfigSpec.regular_shape.2
    (KubeadmConfigSpec.follows _ _) (KubeadmConfigSpec.follows _ _) ?_
    ⟨detached_cluster hx hy hne s, detached_files hx hy hne s, detached_commands s,
      .inr (.inl (postKubeadmCommands_run y s)), (detached_users hx hy hne s).imp_right .inl,
      trivial⟩
  intro hidle hidle'
  rwa [hidle] at hidle'

end Action

/-! ## Changes that are actions -/

/-- Whether a change is an action within a part of the set-up, unless it fails for every set-up. -/
def Part.Acts (part : Part) (change : KubeadmConfigSpec → Except Error KubeadmConfigSpec) : Prop :=
  ∃ x : Action, x.Within part ∧
    ∀ ⦃s s'⦄, change s = .ok s' → ∀ r, change r = .ok (x.run r)

namespace Part

variable {part part' : Part}

/-- A change that is always the same action within a part acts within this part. -/
theorem acts_ok {change : KubeadmConfigSpec → KubeadmConfigSpec} (x : Action)
    (hx : x.Within part) (h : ∀ s, change s = x.run s) : part.Acts fun s => .ok (change s) :=
  ⟨x, hx, fun _ _ _ r => congrArg _ (h r)⟩

/-- A change of nothing acts within every part. -/
theorem acts_self (part : Part) : part.Acts fun s => .ok s :=
  acts_ok .nothing trivial fun _ => rfl

/-- Setting the repository of images is an action within its part. -/
theorem acts_imageRepository (repository : String) :
    imageRepository.Acts fun s => .ok (setImageRepository repository s) :=
  acts_ok (.repository fun _ => some repository) rfl fun _ => rfl

/-- Setting the image of etcd is an action within its part. -/
theorem acts_etcdImage (image : ClusterConfig.Etcd) :
    etcd.Acts fun s => .ok (setEtcdImage image s) := by
  obtain ⟨_ | image⟩ := image
  · exact acts_self etcd
  by_cases hnone : (image.repository.isNone && image.tag.isNone) = true
  · simp only [setEtcdImage, if_pos hnone]
    exact acts_self etcd
  · simp only [setEtcdImage, if_neg hnone]
    exact acts_ok (.etcd fun found => some (etcdWith image found)) rfl fun _ => rfl

/-- Adding names for the certificate of the API server is an action within its part. -/
theorem acts_certSANs (names : List String) :
    apiServer.Acts fun s => .ok (addCertSANs names s) := by
  by_cases hnone : names.isEmpty = true
  · simp only [addCertSANs, if_pos hnone]
    exact acts_self apiServer
  · simp only [addCertSANs, if_neg hnone]
    exact acts_ok (.server fun found => some (serverWith names found)) rfl fun _ => rfl

/-- Configuring a proxy is an action within its part. -/
theorem acts_proxy (settings : ClusterConfig.Proxy) :
    proxy.Acts fun s => .ok (Proxy.configure settings s) := by
  unfold Proxy.configure
  cases Proxy.dropIn? settings with
  | none => exact acts_self proxy
  | some content => exact acts_ok (.script _ _) (.inl ⟨rfl, rfl⟩) fun _ => rfl

/-- Configuring a mirror is an action within its part, if it does not fail. -/
theorem acts_mirror (settings : ClusterConfig.Mirror) :
    mirror.Acts (Mirror.configure settings) := by
  unfold Mirror.configure
  by_cases hurl : (Text.trimmed settings.url == "") = true
  · simp only [if_pos hurl]
    exact ⟨.nothing, trivial, fun s s' h => nomatch h⟩
  · simp only [if_neg hurl]
    exact acts_ok (.script _ _) (.inr ⟨rfl, rfl⟩) fun _ => rfl

/-- Configuring users is an action within its part, if it does not fail. -/
theorem acts_users (accounts : List ClusterConfig.User) :
    users.Acts (Users.configure accounts) := by
  refine ⟨.users (upsertAll User.name (accounts.map Users.ofAccount)), rfl, fun s s' h r => ?_⟩
  exact configure_eq_ok_iff.2 ⟨(configure_eq_ok_iff.1 h).1, rfl⟩

/-- Of two changes that act within different parts, the second can be made and replayed without the
first. -/
theorem Acts.detached {f g : KubeadmConfigSpec → Except Error KubeadmConfigSpec}
    (hf : part.Acts f) (hg : part'.Acts g) (hne : part ≠ part') {s s₁ s₂ : KubeadmConfigSpec}
    (h : f s = .ok s₁) (h' : g s₁ = .ok s₂) :
    ∃ u, g s = .ok u ∧ KubeadmConfigSpec.shape.Detached s s₁ s₂ u := by
  obtain ⟨x, hx, hf⟩ := hf
  obtain ⟨y, hy, hg⟩ := hg
  obtain rfl : x.run s = s₁ := Except.ok.inj ((hf h s).symm.trans h)
  obtain rfl : y.run (x.run s) = s₂ := Except.ok.inj ((hg h' _).symm.trans h')
  exact ⟨y.run s, hg h' s, Action.detached_run hx hy hne s⟩

end Part

end Feature

/-! ## Mutators -/

namespace Mutator

/-- Whether the changes that a mutator makes of the set-up of nodes act within the part that it is
about. -/
inductive Acts : Mutator → Concern → Prop
  | controlPlane {α : Type} {name : String} {source : VariableRef} {input : Shape α}
      {change : α → KubeadmConfigSpec → Except Error KubeadmConfigSpec} {part : Feature.Part} :
    (∀ value, part.Acts (change value)) →
    Acts (Feature.onControlPlane name source input change) (.nodes false part)
  | workers {α : Type} {name : String} {source : VariableRef} {input : Shape α}
      {change : α → KubeadmConfigSpec → Except Error KubeadmConfigSpec} {part : Feature.Part} :
    (∀ value, part.Acts (change value)) →
    Acts (Feature.onWorkers name source input change) (.nodes true part)
  | machines (m : Mutator) (workers : Bool) : Acts m (.machines workers)
  | cluster (m : Mutator) : Acts m .cluster

variable {m m' : Mutator} {c c' : Concern}

/-- Of the changes of an object that two mutators make which are about different things, the second
can be made and replayed without the first. -/
theorem Acts.detached (h : m.Acts c) (h' : m'.Acts c') (hm : m.Concerns c) (hm' : m'.Concerns c')
    (hne : c ≠ c') {vars : Variables} {holder : HolderReference} {object : Json} {k : TemplateKind}
    {f g : Mutation.Change k} (hf : m.changeOf? vars holder object k = some f)
    (hg : m'.changeOf? vars holder object k = some g) : Mutation.Detached f g := by
  obtain ⟨hs, rfl, value, rfl⟩ := exists_of_changeOf? hf
  obtain ⟨hs', hk, value', rfl⟩ := exists_of_changeOf? hg
  obtain ⟨workers, part, part', rfl, rfl, hpart⟩ := hm.exists_parts hm' hne hk hs hs'
  cases h with
  | controlPlane hp =>
    cases h' with
    | controlPlane hp' =>
      refine Feature.detached_onSpec fun s s₁ s₂ hs hs' => ?_
      obtain ⟨u, hu, hdet⟩ := (hp value).detached (hp' value') hpart hs hs'
      exact ⟨u, hu, Template.detached_boxed (by decide) KubeadmConfigSpec.regular_shape.2
        KubeadmConfigSpec.follows (Feature.eq_of_idle hs' hu) hdet⟩
  | workers hp =>
    cases h' with
    | workers hp' =>
      exact Feature.detached_onSpec fun s s₁ s₂ hs hs' =>
        (hp value).detached (hp' value') hpart hs hs'

end Mutator

namespace Feature

/-- The mutators of all providers act within the parts that they are about. -/
theorem acts_shared : List.Forall₂ Mutator.Acts shared sharedConcerns :=
  .cons (.controlPlane Part.acts_imageRepository) <|
  .cons (.controlPlane Part.acts_etcdImage) <|
  .cons (.controlPlane Part.acts_certSANs) <|
  .cons (.controlPlane Part.acts_proxy) <|
  .cons (.workers Part.acts_proxy) <|
  .cons (.controlPlane Part.acts_mirror) <|
  .cons (.workers Part.acts_mirror) <|
  .cons (.controlPlane Part.acts_users) <|
  .cons (.workers Part.acts_users) .nil

/-- The mutators of a provider are about different things, and act within them. -/
theorem exists_acts {ms : List Mutator} (h : OfProvider ms) : ∃ cs : List Concern, cs.Nodup ∧
    List.Forall₂ (fun m c => m.Concerns c ∧ m.Acts c) ms cs := by
  rcases h with rfl | rfl
  · exact ⟨_, by decide,
      forall₂_both (List.rel_append concerns_shared concerns_dockerImages)
        (List.rel_append acts_shared (.cons (.machines _ _) (.cons (.machines _ _) .nil)))⟩
  · exact ⟨_, by decide,
      forall₂_both (List.rel_append concerns_shared concerns_awsMachines)
        (List.rel_append acts_shared
          (.cons (.cluster _) (.cons (.machines _ _) (.cons (.machines _ _) .nil))))⟩

/-- Of the changes of an object that the mutators of a provider make, each can be made and replayed
without any that is made before. -/
theorem pairwise_detached {ms : List Mutator} (h : OfProvider ms) {vars : Variables}
    {holder : HolderReference} {object : Json} {k : TemplateKind} :
    (Mutation.changes ms vars holder object k).Pairwise Mutation.Detached := by
  obtain ⟨cs, hnd, hcs⟩ := exists_acts h
  refine List.pairwise_filterMap.2 ((pairwise_of_forall₂ hcs hnd).imp ?_)
  rintro m m' ⟨c, c', hne, ⟨hc, ha⟩, hc', ha'⟩ f hf g hg
  exact ha.detached ha' hc hc' hne hf hg

end Feature

end TopologyHooks
