import TopologyHooks.Feature.ControlPlane
import TopologyHooks.Feature.Mirror
import TopologyHooks.Feature.Proxy
import TopologyHooks.Feature.Users
import TopologyHooks.Proofs.Pointwise
import TopologyHooks.Proofs.Upsert

/-!
# Parts of the set-up of nodes

Every feature of nodes is about one part of their set-up. `Feature.Part.Settles` says of a change
that it settles a part: made again it changes nothing, whether it would change something shows in
that part alone, and it leaves the other parts alone. The changes of all six features settle their
parts (`Feature.settles_imageRepository` and its siblings).
-/

set_option autoImplicit false

namespace TopologyHooks

open Kubeadm

namespace KubeadmConfigSpec

variable {s : KubeadmConfigSpec}

/-! ## Files with commands -/

/-- Whether two set-ups have the same first file at a path and run the same command or not. -/
def SameScript (path command : String) (s s' : KubeadmConfigSpec) : Prop :=
  s'.files.find? (fun f => f.path = path) = s.files.find? (fun f => f.path = path) ∧
    (command ∈ s'.preKubeadmCommands ↔ command ∈ s.preKubeadmCommands)

/-- A set-up with one more file and a command for it. -/
def withScript (s : KubeadmConfigSpec) (file : File) (command : String) : KubeadmConfigSpec :=
  (s.upsertFile file).ensureCommand command

/-- A script changes nothing exactly if its file is the first one at its path and its command is
run. -/
theorem withScript_eq_self_iff {file : File} {command : String} :
    s.withScript file command = s ↔ s.files.find? (fun f => f.path = file.path) = some file ∧
      command ∈ s.preKubeadmCommands := by
  rw [← upsert_eq_self_iff, ← appendNew_eq_self_iff]
  obtain ⟨cluster, files, before, after, users⟩ := s
  simp [withScript, upsertFile, ensureCommand]

/-- To put a script into a set-up again changes nothing. -/
theorem withScript_withScript {file : File} {command : String} :
    (s.withScript file command).withScript file command = s.withScript file command :=
  withScript_eq_self_iff.2 ⟨find?_upsert_self _, mem_appendNew.2 (.inr rfl)⟩

/-- One script leaves the scripts with another path and another command alone. -/
theorem sameScript_withScript {file : File} {path command other : String} (hp : file.path ≠ path)
    (hc : command ≠ other) : SameScript path command s (s.withScript file other) :=
  ⟨find?_upsert_of_ne hp _, mem_appendNew.trans (or_iff_left hc)⟩

end KubeadmConfigSpec

namespace Feature

/-- What a feature of nodes is about. -/
inductive Part
  | imageRepository
  | etcd
  | apiServer
  | proxy
  | mirror
  | users
  deriving DecidableEq

namespace Part

/-- Whether two set-ups agree in a part. -/
def Agree : Part → KubeadmConfigSpec → KubeadmConfigSpec → Prop
  | imageRepository, s, s' =>
    s'.clusterConfiguration.bind (·.imageRepository) =
      s.clusterConfiguration.bind (·.imageRepository)
  | etcd, s, s' => s'.clusterConfiguration.bind (·.etcd) = s.clusterConfiguration.bind (·.etcd)
  | apiServer, s, s' =>
    s'.clusterConfiguration.bind (·.apiServer) = s.clusterConfiguration.bind (·.apiServer)
  | proxy, s, s' => s.SameScript Proxy.dropInPath Proxy.restartCommand s'
  | mirror, s, s' => s.SameScript Mirror.hostsPath Mirror.enableCommand s'
  | users, s, s' => s'.users = s.users

/-- A set-up agrees with itself in every part. -/
theorem Agree.refl (part : Part) (s : KubeadmConfigSpec) : part.Agree s s := by
  cases part <;> first | rfl | exact ⟨rfl, Iff.rfl⟩

/-- Whether a change settles a part of set-ups. -/
structure Settles (part : Part)
    (change : KubeadmConfigSpec → Except Error KubeadmConfigSpec) : Prop where
  again : ∀ ⦃s s'⦄, change s = .ok s' → change s' = .ok s'
  congr : ∀ ⦃s s'⦄, part.Agree s s' → change s = .ok s → change s' = .ok s'
  others : ∀ ⦃s s'⦄, change s = .ok s' → ∀ other ≠ part, other.Agree s s'

/-- A change that never fails settles a part if it changes nothing when it is made again, whether it
does so depends on this part alone, and it leaves the other parts alone. -/
theorem settles_ok {part : Part} {change : KubeadmConfigSpec → KubeadmConfigSpec}
    (again : ∀ s, change (change s) = change s)
    (congr : ∀ s s', part.Agree s s' → change s = s → change s' = s')
    (others : ∀ s, ∀ other ≠ part, other.Agree s (change s)) :
    part.Settles fun s => .ok (change s) where
  again := by
    rintro s _ ⟨⟩
    exact congrArg _ (again s)
  congr := fun s s' h he => congrArg _ (congr s s' h (Except.ok.inj he))
  others := by
    rintro s _ ⟨⟩
    exact others s

/-- A change of nothing settles every part. -/
theorem settles_self (part : Part) : part.Settles fun s => .ok s :=
  settles_ok (fun _ => rfl) (fun _ _ _ _ => rfl) fun s other _ => .refl other s

/-- A change that always fails settles every part. -/
theorem settles_error (part : Part) (e : Error) : part.Settles fun _ => .error e where
  again := by
    intro _ _ h
    cases h
  congr := by
    intro _ _ _ h
    cases h
  others := by
    intro _ _ h
    cases h

end Part

/-! ## Components of the control plane -/

/-- Changed settings of the components agree with the old ones in each part that the change leaves
alone. -/
theorem Part.agree_modifyCluster {other : Part} (s : KubeadmConfigSpec)
    {change : ClusterConfiguration → ClusterConfiguration}
    (hi : other = .imageRepository → ∀ c, (change c).imageRepository = c.imageRepository)
    (he : other = .etcd → ∀ c, (change c).etcd = c.etcd)
    (ha : other = .apiServer → ∀ c, (change c).apiServer = c.apiServer) :
    other.Agree s (s.modifyCluster change) := by
  -- settings that are created for the change say as little as missing ones
  cases other with
  | imageRepository =>
    cases hc : s.clusterConfiguration <;>
      simp [Agree, KubeadmConfigSpec.modifyCluster, hc, hi rfl, ClusterConfiguration.blank]
  | etcd =>
    cases hc : s.clusterConfiguration <;>
      simp [Agree, KubeadmConfigSpec.modifyCluster, hc, he rfl, ClusterConfiguration.blank]
  | apiServer =>
    cases hc : s.clusterConfiguration <;>
      simp [Agree, KubeadmConfigSpec.modifyCluster, hc, ha rfl, ClusterConfiguration.blank]
  | proxy | mirror => exact ⟨rfl, Iff.rfl⟩
  | users => rfl

section

variable {β : Type} {change : ClusterConfiguration → ClusterConfiguration}
  {g : ClusterConfiguration → Option β} {f : Option β → β}

/-- A change of the settings that sets one of them changes nothing exactly if this setting has its
value. -/
theorem modifyCluster_eq_self_iff (hchange : ∀ c, change c = c ↔ g c = some (f (g c)))
    {s : KubeadmConfigSpec} :
    s.modifyCluster change = s ↔
      s.clusterConfiguration.bind g = some (f (s.clusterConfiguration.bind g)) := by
  obtain ⟨_ | c, files, before, after, users⟩ := s <;>
    simp [KubeadmConfigSpec.modifyCluster, hchange]

/-- A change that computes one setting from what it was settles that setting, if the same is
computed from the result. -/
theorem Part.settles_modifyCluster {part : Part}
    (hchange : ∀ c, change c = c ↔ g c = some (f (g c)))
    (hg : ∀ c, g (change c) = some (f (g c))) (hagain : ∀ o, f (some (f o)) = f o)
    (hagree : ∀ s s', part.Agree s s' →
      s'.clusterConfiguration.bind g = s.clusterConfiguration.bind g)
    (hothers : ∀ s, ∀ other ≠ part, other.Agree s (s.modifyCluster change)) :
    part.Settles fun s => .ok (s.modifyCluster change) := by
  refine settles_ok (fun s => ?_) (fun s s' h he => ?_) hothers
  · rw [modifyCluster_eq_self_iff hchange]
    simp only [KubeadmConfigSpec.modifyCluster, Option.bind_some, hg, hagain]
  · rw [modifyCluster_eq_self_iff hchange, hagree s s' h]
    exact (modifyCluster_eq_self_iff hchange).1 he

end

/-- Setting the repository of images settles its part. -/
theorem settles_imageRepository (repository : String) :
    Part.imageRepository.Settles fun s => .ok (setImageRepository repository s) := by
  refine Part.settles_modifyCluster (g := (·.imageRepository)) (f := fun _ => repository) ?_
    (fun _ => rfl) (fun _ => rfl) (fun _ _ h => h) ?_
  · rintro ⟨found, etcd, server⟩
    simp [eq_comm]
  · intro s other hne
    exact Part.agree_modifyCluster s (fun h => absurd h hne) (fun _ _ => rfl) fun _ _ => rfl

/-- The etcd that one becomes by some image; a missing one is created. -/
def etcdWith (image : ClusterConfig.Image) (etcd : Option EtcdConfiguration) : EtcdConfiguration :=
  ⟨some (LocalEtcd.withImage ((etcd.bind EtcdConfiguration.onNodes).getD .blank) image)⟩

/-- To set the image of etcd again changes nothing. -/
theorem etcdWith_etcdWith (image : ClusterConfig.Image) (etcd : Option EtcdConfiguration) :
    etcdWith image (some (etcdWith image etcd)) = etcdWith image etcd := by
  obtain ⟨repository, tag⟩ := image
  cases repository <;> cases tag <;> simp [etcdWith, LocalEtcd.withImage]

/-- Setting the image of etcd settles its part. -/
theorem settles_etcdImage (etcd : ClusterConfig.Etcd) :
    Part.etcd.Settles fun s => .ok (setEtcdImage etcd s) := by
  obtain ⟨_ | image⟩ := etcd
  · exact Part.settles_self .etcd
  by_cases hnone : (image.repository.isNone && image.tag.isNone) = true
  · simp only [setEtcdImage, if_pos hnone]
    exact Part.settles_self .etcd
  · simp only [setEtcdImage, if_neg hnone]
    refine Part.settles_modifyCluster (g := (·.etcd)) (f := etcdWith image) ?_ (fun _ => rfl)
      (etcdWith_etcdWith image) (fun _ _ h => h) ?_
    · rintro ⟨repository, found, server⟩
      simp [etcdWith, eq_comm]
    · intro s other hne
      exact Part.agree_modifyCluster s (fun _ _ => rfl) (fun h => absurd h hne) fun _ _ => rfl

/-- The API server that one becomes by more names; a missing one is created. -/
def serverWith (names : List String) (server : Option ApiServer) : ApiServer :=
  let server := server.getD .blank
  { server with certSANs := appendAllNew server.certSANs names }

/-- To add the same names to an API server again changes nothing. -/
theorem serverWith_serverWith (names : List String) (server : Option ApiServer) :
    serverWith names (some (serverWith names server)) = serverWith names server := by
  simp [serverWith, appendAllNew_appendAllNew]

/-- Adding names for the certificate of the API server settles its part. -/
theorem settles_certSANs (names : List String) :
    Part.apiServer.Settles fun s => .ok (addCertSANs names s) := by
  by_cases hnone : names.isEmpty = true
  · simp only [addCertSANs, if_pos hnone]
    exact Part.settles_self .apiServer
  · simp only [addCertSANs, if_neg hnone]
    refine Part.settles_modifyCluster (g := (·.apiServer)) (f := serverWith names) ?_
      (fun _ => rfl) (serverWith_serverWith names) (fun _ _ h => h) ?_
    · rintro ⟨repository, etcd, found⟩
      simp [serverWith, eq_comm]
    · intro s other hne
      exact Part.agree_modifyCluster s (fun _ _ => rfl) (fun _ _ => rfl) fun h => absurd h hne

/-! ## Scripts -/

/-- Putting a script into set-ups settles a part that it alone is in. -/
theorem Part.settles_withScript {part : Part} {file : File} {command : String}
    (hagree : ∀ s s', part.Agree s s' → s.SameScript file.path command s')
    (hothers : ∀ s, ∀ other ≠ part, other.Agree s (s.withScript file command)) :
    part.Settles fun s => .ok (s.withScript file command) := by
  refine settles_ok (fun s => KubeadmConfigSpec.withScript_withScript) (fun s s' h he => ?_) hothers
  rw [KubeadmConfigSpec.withScript_eq_self_iff] at he ⊢
  obtain ⟨hfile, hcommand⟩ := hagree s s' h
  exact ⟨hfile.trans he.1, hcommand.2 he.2⟩

/-- Configuring a proxy settles its part. -/
theorem settles_proxy (proxy : ClusterConfig.Proxy) :
    Part.proxy.Settles fun s => .ok (Proxy.configure proxy s) := by
  unfold Proxy.configure
  cases Proxy.dropIn? proxy with
  | none => exact Part.settles_self .proxy
  | some content =>
    refine Part.settles_withScript (fun _ _ => id) ?_
    intro s other hne
    have hpath : Proxy.dropInPath ≠ Mirror.hostsPath := by decide
    have hcommand : Mirror.enableCommand ≠ Proxy.restartCommand := by decide
    cases other with
    | proxy => exact absurd rfl hne
    | mirror => exact KubeadmConfigSpec.sameScript_withScript hpath hcommand
    | _ => rfl

/-- Configuring a mirror settles its part. -/
theorem settles_mirror (mirror : ClusterConfig.Mirror) :
    Part.mirror.Settles (Mirror.configure mirror) := by
  unfold Mirror.configure
  by_cases hurl : (Text.trimmed mirror.url == "") = true
  · simp only [if_pos hurl]
    exact Part.settles_error .mirror _
  · simp only [if_neg hurl]
    refine Part.settles_withScript (fun _ _ => id) ?_
    intro s other hne
    have hpath : Mirror.hostsPath ≠ Proxy.dropInPath := by decide
    have hcommand : Proxy.restartCommand ≠ Mirror.enableCommand := by decide
    cases other with
    | mirror => exact absurd rfl hne
    | proxy => exact KubeadmConfigSpec.sameScript_withScript hpath hcommand
    | _ => rfl

/-! ## Users -/

/-- Adding users succeeds exactly if each account has a name, and puts in one user after the
other. -/
theorem addAll_eq_ok_iff : ∀ {accounts : List ClusterConfig.User} {us us' : List User},
    Users.addAll accounts us = .ok us' ↔ (∀ a ∈ accounts, a.name ≠ "") ∧
      us' = upsertAll User.name (accounts.map Users.ofAccount) us
  | [], us, us' => by
    rw [Users.addAll, Except.ok.injEq, upsertAll, List.map_nil, List.foldl_nil, eq_comm]
    simp
  | account :: rest, us, us' => by
    rw [Users.addAll, List.map_cons, upsertAll_cons, List.forall_mem_cons]
    by_cases hname : account.name = ""
    · simp [hname]
    · simp [hname, addAll_eq_ok_iff]

/-- Configuring users succeeds exactly if each account has a name, and changes nothing besides the
users. -/
theorem configure_eq_ok_iff {accounts : List ClusterConfig.User} {s s' : KubeadmConfigSpec} :
    Users.configure accounts s = .ok s' ↔ (∀ a ∈ accounts, a.name ≠ "") ∧
      s' = { s with users := upsertAll User.name (accounts.map Users.ofAccount) s.users } := by
  rw [Users.configure, map_eq_ok_iff]
  simp only [addAll_eq_ok_iff]
  constructor
  · rintro ⟨us, ⟨hnames, rfl⟩, rfl⟩
    exact ⟨hnames, rfl⟩
  · rintro ⟨hnames, rfl⟩
    exact ⟨_, ⟨hnames, rfl⟩, rfl⟩

/-- Configuring users settles its part. -/
theorem settles_users (accounts : List ClusterConfig.User) :
    Part.users.Settles (Users.configure accounts) where
  again := fun s s' h => by
    obtain ⟨hnames, rfl⟩ := configure_eq_ok_iff.1 h
    exact configure_eq_ok_iff.2 ⟨hnames, by simp [upsertAll_upsertAll]⟩
  congr := fun s s' h he => by
    obtain ⟨hnames, hs⟩ := configure_eq_ok_iff.1 he
    have hu : s.users = upsertAll User.name (accounts.map Users.ofAccount) s.users :=
      congrArg KubeadmConfigSpec.users hs
    have h : s'.users = s.users := h
    rw [← h] at hu
    exact configure_eq_ok_iff.2 ⟨hnames, congrArg (fun us => { s' with users := us }) hu⟩
  others := fun s s' h other hne => by
    obtain ⟨-, rfl⟩ := configure_eq_ok_iff.1 h
    cases other with
    | users => exact absurd rfl hne
    | proxy | mirror => exact ⟨rfl, Iff.rfl⟩
    | _ => rfl

end Feature

end TopologyHooks
