import TopologyHooks.Proofs.Feature.Concern
import TopologyHooks.Proofs.Feature.Field
import TopologyHooks.Proofs.Handler.Failure

/-!
# Which features own which fields

* `TemplateKind.fields` — the fields of the templates of a kind.
* `Feature.Owner` — a mutator with the fields that its changes own, for each value of its variable.
* `Feature.sharedOwners`, `Feature.dockerOwners`, `Feature.awsOwners` — the owners among the
  mutators of the extension. Of the image of etcd only the configured parts are owned.
* `Feature.pairwise_disjoint_shares` — owners that change the same object own different fields
  of it.
-/

set_option autoImplicit false

namespace TopologyHooks

open Kubeadm

namespace Feature

/-! ## Set-up of nodes -/

namespace FieldView

/-- Setting the repository of images owns the field for it. -/
theorem owns_imageRepository (repository : String) :
    nodes.Owns [.imageRepository] fun s => .ok (setImageRepository repository s) :=
  owns_ok (fun _ _ _ => List.forall_mem_singleton.2 rfl) (fun _ => rfl) fun _ => List.prefix_rfl

/-- The fields that a configured image of etcd owns. -/
def etcdFields (etcd : ClusterConfig.Etcd) : List Field :=
  match etcd.image with
  | some ⟨some _, some _⟩ => [.etcdRepository, .etcdTag]
  | some ⟨some _, none⟩ => [.etcdRepository]
  | some ⟨none, some _⟩ => [.etcdTag]
  | _ => []

/-- Setting the image of etcd owns the fields that are configured. -/
theorem owns_etcdImage (etcd : ClusterConfig.Etcd) :
    nodes.Owns (etcdFields etcd) fun s => .ok (setEtcdImage etcd s) := by
  obtain ⟨_ | ⟨_ | repository, _ | tag⟩⟩ := etcd
  · exact owns_self _
  · exact owns_self _
  · exact owns_ok (fun _ _ _ => List.forall_mem_singleton.2 rfl) (fun _ => rfl)
      fun _ => List.prefix_rfl
  · exact owns_ok (fun _ _ _ => List.forall_mem_singleton.2 rfl) (fun _ => rfl)
      fun _ => List.prefix_rfl
  · exact owns_ok
      (fun _ _ _ => List.forall_mem_cons.2 ⟨rfl, List.forall_mem_singleton.2 rfl⟩)
      (fun _ => rfl) fun _ => List.prefix_rfl

/-- The names for the certificate depend on those that are there. -/
theorem read_certSANs_addCertSANs {names : List String} (h : names.isEmpty = false)
    (s : KubeadmConfigSpec) :
    nodes.read .certSANs (addCertSANs names s) =
      some (appendAllNew ((nodes.read .certSANs s).getD []) names) := by
  obtain ⟨_ | ⟨repository, etcd, _ | server⟩, files, before, after, us⟩ := s <;>
    simp only [addCertSANs, h] <;> rfl

/-- Adding names for the certificate of the API server owns the list of them. -/
theorem owns_certSANs (names : List String) :
    nodes.Owns [.certSANs] fun s => .ok (addCertSANs names s) := by
  cases h : names.isEmpty with
  | true =>
    simp only [addCertSANs, h, if_true]
    exact owns_self _
  | false =>
    refine owns_ok (fun s r hread => List.forall_mem_singleton.2 ?_) (fun s => ?_) fun s => ?_
    · rw [read_certSANs_addCertSANs h, read_certSANs_addCertSANs h,
        hread .certSANs (List.mem_singleton_self _)]
    · simp only [addCertSANs, h]
      rfl
    · simp only [addCertSANs, h]
      exact List.prefix_rfl

section

variable {file : File} {command : String} (s : KubeadmConfigSpec)

/-- A script that was put into a set-up is the one at its path, and its command is run. -/
theorem scriptAt_withScript :
    (s.withScript file command).scriptAt file.path command = (some file, true) := by
  have hfile : (upsert File.path file s.files).find? (fun f => f.path = file.path) = some file :=
    find?_upsert_self s.files
  have hcommand : command ∈ appendNew s.preKubeadmCommands command := mem_appendNew.2 (.inr rfl)
  exact Prod.ext hfile (decide_eq_true hcommand)

/-- Taking away a script takes away one that was just put there. -/
theorem withoutScript_withScript :
    (s.withScript file command).withoutScript file.path command =
      s.withoutScript file.path command := by
  have hfiles : (upsert File.path file s.files).eraseP (fun f => f.path = file.path) =
      s.files.eraseP fun f => f.path = file.path := eraseP_upsert s.files
  have hcommands : (appendNew s.preKubeadmCommands command).filter (fun c => c ≠ command) =
      s.preKubeadmCommands.filter fun c => c ≠ command := by
    unfold appendNew
    split <;> simp
  rw [KubeadmConfigSpec.withoutScript, KubeadmConfigSpec.withoutScript]
  simp only [KubeadmConfigSpec.withScript, KubeadmConfigSpec.upsertFile,
    KubeadmConfigSpec.ensureCommand, hfiles, hcommands]

/-- A script adds its command behind all others, if at all. -/
theorem prefix_withScript :
    s.preKubeadmCommands <+: (s.withScript file command).preKubeadmCommands :=
  prefix_appendNew

end

/-- A change that adds a script owns the field of that script. -/
theorem owns_withScript {field : Field} {file : File} {command : String}
    (hread : ∀ s r : KubeadmConfigSpec,
      s.scriptAt file.path command = r.scriptAt file.path command →
        nodes.read field s = nodes.read field r)
    (hclear : ∀ s, nodes.clear field s = s.withoutScript file.path command) :
    nodes.Owns [field] fun s => .ok (s.withScript file command) := by
  refine owns_ok (fun s r _ => List.forall_mem_singleton.2 ?_) (fun s => ?_) prefix_withScript
  · exact hread _ _ ((scriptAt_withScript s).trans (scriptAt_withScript r).symm)
  · simp only [clearAll, List.foldr_cons, List.foldr_nil, hclear, withoutScript_withScript]

/-- Configuring a proxy owns the script for it. -/
theorem owns_proxy (proxy : ClusterConfig.Proxy) :
    nodes.Owns [.proxy] fun s => .ok (Proxy.configure proxy s) := by
  unfold Proxy.configure
  cases Proxy.dropIn? proxy with
  | none => exact owns_self _
  | some content => exact owns_withScript (fun _ _ => id) fun _ => rfl

/-- Configuring a mirror owns the script for it. -/
theorem owns_mirror (mirror : ClusterConfig.Mirror) :
    nodes.Owns [.mirror] (Mirror.configure mirror) := by
  unfold Mirror.configure
  by_cases hurl : (Text.trimmed mirror.url == "") = true
  · simp only [if_pos hurl]
    exact owns_error _ _
  · simp only [if_neg hurl]
    exact owns_withScript (fun _ _ => id) fun _ => rfl

/-- Configuring users owns the users. -/
theorem owns_users (accounts : List ClusterConfig.User) :
    nodes.Owns [.users] (Users.configure accounts) where
  depends := by
    intro s u r hu hread
    obtain ⟨hnames, rfl⟩ := configure_eq_ok_iff.1 hu
    have husers : s.users = r.users := hread .users (List.mem_singleton_self _)
    exact ⟨_, configure_eq_ok_iff.2 ⟨hnames, rfl⟩, List.forall_mem_singleton.2
      (congrArg (upsertAll User.name (accounts.map Users.ofAccount)) husers)⟩
  frame := by
    intro s s' h
    obtain ⟨-, rfl⟩ := configure_eq_ok_iff.1 h
    rfl
  grows := by
    intro s s' h
    obtain ⟨-, rfl⟩ := configure_eq_ok_iff.1 h
    exact List.prefix_rfl

/-! ## Machines and clusters -/

/-- The field of a machine on Docker. -/
def dockerMachine : FieldView Docker.MachineSpec :=
  .single .customImage (·.customImage) fun s => { s with customImage := none }

/-- The field of a machine on AWS. -/
def awsMachine : FieldView Aws.MachineSpec :=
  .single .instanceType (fun s => some s.instanceType) fun s => { s with instanceType := "" }

/-- The field of a cluster on AWS. -/
def awsCluster : FieldView Aws.ClusterSpec :=
  .single .region (·.region) fun s => { s with region := none }

/-- Setting the image of a machine owns the field for it. -/
theorem owns_customImage (versions : List (List String)) (vars : Variables) (image : String) :
    dockerMachine.Owns [.customImage] (NodeImage.configure versions vars image) := by
  unfold NodeImage.configure
  cases NodeImage.firstVersion vars versions with
  | error e => exact owns_error _ e
  | ok version =>
    simp only []
    cases NodeImage.choose? image version with
    | none => exact owns_self _
    | some chosen => exact owns_single (fun _ _ => rfl) fun _ => rfl

/-- Setting the type of an instance owns the field for it. -/
theorem owns_instanceType (name type : String) :
    awsMachine.Owns [.instanceType] (setInstanceType name type) := by
  unfold setInstanceType
  by_cases h : (type == "") = true
  · simp only [if_pos h]
    exact owns_error _ _
  · simp only [if_neg h]
    exact owns_single (fun _ _ => rfl) fun _ => rfl

/-- Setting the region owns the field for it. -/
theorem owns_region (region : String) :
    awsCluster.Owns [.region] fun s => .ok (setRegion region s) :=
  owns_single (fun _ _ => rfl) fun _ => rfl

end FieldView

end Feature

/-! ## Owners -/

/-- The fields of what a kind specifies. -/
def TemplateKind.specFields : (k : TemplateKind) → Feature.FieldView k.Spec
  | kubeadmControlPlane | kubeadmConfig => .nodes
  | dockerMachine => .dockerMachine
  | dockerCluster => .empty
  | awsMachine => .awsMachine
  | awsCluster => .awsCluster

/-- The fields of the templates of a kind. -/
def TemplateKind.fields (k : TemplateKind) : Feature.FieldView k.Object := k.specFields.template

namespace Feature

/-- A mutator with the fields that its changes own, for each value of its variable. -/
structure Owner : Type 1 where
  mutator : Mutator
  owned : mutator.Input → List Field
  owns : ∀ ctx value, mutator.kind.fields.Owns (owned value) (mutator.change ctx value)

namespace FieldView

variable {fields : List Field}

/-- A change of the set-up of nodes owns its fields as a change of control planes, too. -/
theorem Owns.onControlPlane {change : KubeadmConfigSpec → Except Error KubeadmConfigSpec}
    (h : nodes.Owns fields change) : (TemplateKind.fields .kubeadmControlPlane).Owns fields
      (Feature.onSpec (k := .kubeadmControlPlane) change) :=
  Owns.onSpec (k := .kubeadmControlPlane) h

/-- A change of the set-up of nodes owns its fields as a change of workers, too. -/
theorem Owns.onWorkers {change : KubeadmConfigSpec → Except Error KubeadmConfigSpec}
    (h : nodes.Owns fields change) : (TemplateKind.fields .kubeadmConfig).Owns fields
      (Feature.onSpec (k := .kubeadmConfig) change) :=
  Owns.onSpec (k := .kubeadmConfig) h

end FieldView

-- what the change does is of no account for whose change it is
attribute [local irreducible] Mirror.configure in
open FieldView in
/-- The owners among the mutators of all providers. -/
def sharedOwners : List Owner :=
  [⟨imageRepository[0], fun _ => [.imageRepository],
      fun _ v => (owns_imageRepository v).onControlPlane⟩,
    ⟨etcdImage[0], etcdFields, fun _ v => (owns_etcdImage v).onControlPlane⟩,
    ⟨certSANs[0], fun _ => [.certSANs], fun _ v => (owns_certSANs v).onControlPlane⟩,
    ⟨proxy[0], fun _ => [.proxy], fun _ v => (owns_proxy v).onControlPlane⟩,
    ⟨proxy[1], fun _ => [.proxy], fun _ v => (owns_proxy v).onWorkers⟩,
    ⟨mirror[0], fun _ => [.mirror], fun _ v => (owns_mirror v).onControlPlane⟩,
    ⟨mirror[1], fun _ => [.mirror], fun _ v => (owns_mirror v).onWorkers⟩,
    ⟨users[0], fun _ => [.users], fun _ v => (owns_users v).onControlPlane⟩,
    ⟨users[1], fun _ => [.users], fun _ v => (owns_users v).onWorkers⟩]

open FieldView in
/-- The owners among the mutators for clusters on Docker. -/
def dockerOwners : List Owner :=
  sharedOwners ++
    [⟨dockerImages[0], fun _ => [.customImage],
        fun ctx v => Owns.onSpec (k := .dockerMachine) (owns_customImage _ ctx.vars v)⟩,
      ⟨dockerImages[1], fun _ => [.customImage],
        fun ctx v => Owns.onSpec (k := .dockerMachine) (owns_customImage _ ctx.vars v)⟩]

open FieldView in
/-- The owners among the mutators for clusters on AWS. -/
def awsOwners : List Owner :=
  sharedOwners ++
    [⟨awsMachines[0], fun _ => [.region],
        fun _ v => Owns.onSpec (k := .awsCluster) (owns_region v)⟩,
      ⟨awsMachines[1], fun _ => [.instanceType],
        fun _ v => Owns.onSpec (k := .awsMachine) (owns_instanceType _ v)⟩,
      ⟨awsMachines[2], fun _ => [.instanceType],
        fun _ v => Owns.onSpec (k := .awsMachine) (owns_instanceType _ v)⟩]

/-- The owners for Docker are all mutators for it, in the same order. -/
theorem map_mutator_dockerOwners : dockerOwners.map Owner.mutator = shared ++ dockerImages := rfl

/-- The owners for AWS are all mutators for it, in the same order. -/
theorem map_mutator_awsOwners : awsOwners.map Owner.mutator = shared ++ awsMachines := rfl

/-! ## Different owners -/

/-- The fields that belong to a part of the set-up of nodes. -/
def Part.fields : Part → List Field
  | imageRepository => [.imageRepository]
  | etcd => [.etcdRepository, .etcdTag]
  | apiServer => [.certSANs]
  | proxy => [.proxy]
  | mirror => [.mirror]
  | users => [.users]

/-- No field belongs to two parts. -/
theorem Part.disjoint_fields {part part' : Part} (h : part ≠ part') :
    part.fields.Disjoint part'.fields := by
  cases part <;> cases part' <;> simp [fields] at h ⊢

/-- Whether what a mutator owns belongs to the part of the set-up of nodes that it is about. -/
def Owner.Within (o : Owner) : Concern → Prop
  | .nodes _ part => ∀ value, o.owned value ⊆ part.fields
  | .machines _ | .cluster => True

/-- What a configured image of etcd owns belongs to its part. -/
theorem etcdFields_subset (etcd : ClusterConfig.Etcd) :
    FieldView.etcdFields etcd ⊆ Part.etcd.fields := by
  obtain ⟨_ | ⟨_ | _, _ | _⟩⟩ := etcd <;> simp [FieldView.etcdFields, Part.fields]

/-- The owners among the mutators of all providers keep to the parts that they are about. -/
theorem within_sharedOwners : List.Forall₂ Owner.Within sharedOwners sharedConcerns :=
  .cons (fun _ => List.Subset.refl _) <|
  .cons etcdFields_subset <|
  .cons (fun _ => List.Subset.refl _) <|
  .cons (fun _ => List.Subset.refl _) <|
  .cons (fun _ => List.Subset.refl _) <|
  .cons (fun _ => List.Subset.refl _) <|
  .cons (fun _ => List.Subset.refl _) <|
  .cons (fun _ => List.Subset.refl _) <|
  .cons (fun _ => List.Subset.refl _) .nil

/-- Whether a list holds the owners of one provider. -/
def OwnersOfProvider (os : List Owner) : Prop := os = dockerOwners ∨ os = awsOwners

/-- The owners of a provider are about different things, and keep to them. -/
theorem exists_within {os : List Owner} (h : OwnersOfProvider os) :
    ∃ cs : List Concern, cs.Nodup ∧
      List.Forall₂ (fun o c => o.mutator.Concerns c ∧ o.Within c) os cs := by
  obtain rfl | rfl := h
  · have hc := List.rel_append concerns_shared concerns_dockerImages
    exact ⟨_, by decide, forall₂_both (List.forall₂_map_left_iff.1 hc)
      (List.rel_append within_sharedOwners (.cons trivial (.cons trivial .nil)))⟩
  · have hc := List.rel_append concerns_shared concerns_awsMachines
    exact ⟨_, by decide, forall₂_both (List.forall₂_map_left_iff.1 hc)
      (List.rel_append within_sharedOwners (.cons trivial (.cons trivial (.cons trivial .nil))))⟩

/-! ## Objects -/

namespace Owner

variable {o : Owner} {vars : Variables} {holder : HolderReference} {object : Json}
  {k : TemplateKind}

/-- The fields of an object that a mutator owns, if it changes the object. -/
def fieldsOf (o : Owner) (vars : Variables) (holder : HolderReference) (object : Json) :
    List Field :=
  match o.mutator.valueFor? vars holder object with
  | some value => o.owned value
  | none => []

/-- The change that a mutator makes of an object of a kind, with the fields that it owns then. -/
def share? (o : Owner) (vars : Variables) (holder : HolderReference) (object : Json)
    (k : TemplateKind) : Option (FieldView.Share k) :=
  match o.mutator.valueFor? vars holder object with
  | some value =>
    if h : o.mutator.kind = k then some (h ▸ o.mutator.change ⟨vars, holder⟩ value, o.owned value)
    else none
  | none => none

/-- A mutator has a share in an object of a kind when it changes that kind and has a value for the
object. -/
theorem exists_of_share? {share : FieldView.Share k}
    (h : o.share? vars holder object k = some share) :
    ∃ (hk : o.mutator.kind = k) (value : o.mutator.Input),
      o.mutator.valueFor? vars holder object = some value ∧
      share = (hk ▸ o.mutator.change ⟨vars, holder⟩ value, o.owned value) := by
  unfold share? at h
  split at h
  · rename_i value hvalue
    split at h
    · rename_i hk
      exact ⟨hk, value, hvalue, (Option.some.inj h).symm⟩
    · cases h
  · cases h

/-- The change in a share owns the fields in it. -/
theorem owns_of_share? {share : FieldView.Share k}
    (h : o.share? vars holder object k = some share) : k.fields.Owns share.2 share.1 := by
  obtain ⟨rfl, value, -, rfl⟩ := exists_of_share? h
  exact o.owns ⟨vars, holder⟩ value

/-- The change in a share is the one that the mutator makes. -/
theorem map_fst_share? :
    (o.share? vars holder object k).map Prod.fst = o.mutator.changeOf? vars holder object k := by
  unfold share? Mutator.changeOf?
  cases hvalue : o.mutator.valueFor? vars holder object with
  | some value =>
    have hchange := Mutator.changeFor_eq_iff.2 ⟨value, hvalue, rfl⟩
    simp only [hchange]
    split <;> rfl
  | none =>
    cases hchange : o.mutator.changeFor vars holder object with
    | error e => rfl
    | ok f =>
      cases f with
      | none => rfl
      | some f =>
        obtain ⟨value, hsome, -⟩ := Mutator.changeFor_eq_iff.1 hchange
        rw [hvalue] at hsome
        cases hsome

end Owner

variable {os : List Owner} {vars : Variables} {holder : HolderReference} {object : Json}
  {k : TemplateKind}

/-- The changes of an object are those that its owners make. -/
theorem changes_map_mutator (os : List Owner) (vars : Variables) (holder : HolderReference)
    (object : Json) (k : TemplateKind) :
    Mutation.changes (os.map Owner.mutator) vars holder object k =
      (os.filterMap fun o => o.share? vars holder object k).map Prod.fst := by
  rw [Mutation.changes, List.filterMap_map, List.map_filterMap]
  exact List.filterMap_congr fun o _ => Owner.map_fst_share?.symm

/-- The fields in all shares are those that the mutators own for the object. -/
theorem flatMap_snd_shares : ∀ {os : List Owner},
    (∀ o ∈ os, ∀ value, o.mutator.valueFor? vars holder object = some value →
      o.mutator.kind = k) →
    (os.filterMap fun o => o.share? vars holder object k).flatMap Prod.snd =
      os.flatMap fun o => o.fieldsOf vars holder object
  | [], _ => rfl
  | o :: rest, h => by
    obtain ⟨ho, hrest⟩ := List.forall_mem_cons.1 h
    rw [List.flatMap_cons, ← flatMap_snd_shares hrest]
    unfold Owner.fieldsOf
    cases hvalue : o.mutator.valueFor? vars holder object with
    | none =>
      have hshare : o.share? vars holder object k = none := by simp only [Owner.share?, hvalue]
      rw [List.filterMap_cons, hshare, List.nil_append]
    | some value =>
      have hshare : o.share? vars holder object k = some
          (ho value hvalue ▸ o.mutator.change ⟨vars, holder⟩ value, o.owned value) := by
        simp only [Owner.share?, hvalue, ho value hvalue, dite_true]
      rw [List.filterMap_cons, hshare, List.flatMap_cons]

/-- Owners that change the same object own different fields of it. -/
theorem pairwise_disjoint_shares (h : OwnersOfProvider os) :
    (os.filterMap fun o => o.share? vars holder object k).Pairwise
      fun share share' => share.2.Disjoint share'.2 := by
  obtain ⟨cs, hnd, hcs⟩ := exists_within h
  refine List.pairwise_filterMap.2 ((pairwise_of_forall₂ hcs hnd).imp ?_)
  rintro o o' ⟨c, c', hne, ⟨hc, hw⟩, hc', hw'⟩ share hshare share' hshare'
  obtain ⟨rfl, value, hvalue, rfl⟩ := Owner.exists_of_share? hshare
  obtain ⟨hk, value', hvalue', rfl⟩ := Owner.exists_of_share? hshare'
  obtain ⟨-, -, -, hs⟩ := Mutator.valueFor?_eq_some_iff.1 hvalue
  obtain ⟨-, -, -, hs'⟩ := Mutator.valueFor?_eq_some_iff.1 hvalue'
  obtain ⟨workers, part, part', rfl, rfl, hpart⟩ := hc.exists_parts hc' hne hk hs hs'
  intro field hfield hfield'
  exact Part.disjoint_fields hpart (hw value hfield) (hw' value' hfield')

end Feature

end TopologyHooks
