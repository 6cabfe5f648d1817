import TopologyHooks.Proofs.Feature.Action
import TopologyHooks.Proofs.Feature.Ownership
import TopologyHooks.Proofs.Handler.Building

/-!
# Features do not get in each other's way

Up to seven mutators change the same object, each on top of what the others left. Main statement:
when a handler of the extension answers with patches, each mutator that changes an object makes the
same of the fields that it owns as it does alone, on the object as it was received, and everything
that no mutator owns stays as it was (`Handler.separate_of_generatePatches`). That it succeeds
alone is not a matter of course, since a patch may fail on an object that lacks a place; here no
mutator needs a place that another one adds (`Mutation.Run.exists_alone`).
-/

set_option autoImplicit false

namespace TopologyHooks

open Patch

/-! ## One mutator alone -/

namespace Mutator

variable {m : Mutator} {registry : ObjectRegistry} {item : GeneratePatches.RequestItem}
  {vars : Variables} {value : m.Input} {t u : m.kind.Object} {next : Json}

/-- A mutator does not break on an object on which its change can be replayed. -/
theorem not_breaks {object : Json}
    (hvalue : m.valueFor? vars item.holderReference object = some value)
    (ht : registry.decodeAs m.kind object = .ok t)
    (hu : m.change ⟨vars, item.holderReference⟩ value t = .ok u)
    (hnext : run? (diff (m.kind.shape.toJson t) (m.kind.shape.toJson u)) object = some next)
    (e : Error) : ¬ m.Breaks registry item vars object e := by
  intro hbreaks
  cases hbreaks with
  | decode _ hb =>
    rw [ht] at hb
    cases hb
  | change hv hb ha =>
    obtain rfl := Option.some.inj (hvalue.symm.trans hv)
    obtain rfl := Except.ok.inj (ht.symm.trans hb)
    rw [hu] at ha
    cases ha
  | patch hv hb ha happ =>
    obtain rfl := Option.some.inj (hvalue.symm.trans hv)
    obtain rfl := Except.ok.inj (ht.symm.trans hb)
    obtain rfl := Except.ok.inj (hu.symm.trans ha)
    rw [apply_eq_ok_iff.2 hnext] at happ
    cases happ

/-- A mutator whose change can be replayed on an object changes it alone, into one that is read as
what its change makes of the template. -/
theorem exists_generate (hgentle : m.Gentle) (ho : item.object.Ordered)
    (hvalue : m.valueFor? vars item.holderReference item.object = some value)
    (ht : registry.decode item.object = .ok ⟨m.kind, t⟩)
    (hu : m.change ⟨vars, item.holderReference⟩ value t = .ok u)
    (hnext : run? (diff (m.kind.shape.toJson t) (m.kind.shape.toJson u)) item.object = some next) :
    ∃ l, m.generate registry item vars .empty = (l, none) ∧
      registry.decode (l.current item.uid item.object) = .ok ⟨m.kind, u⟩ := by
  have hread := ObjectRegistry.decodeAs_eq_ok_iff.2 ht
  have hfor := changeFor_eq_iff.2 ⟨value, hvalue, rfl⟩
  have hcurrent : Ledger.empty.current item.uid item.object = item.object := rfl
  -- the variable was read and nothing breaks, so it does not fail
  have hnone : (m.generate registry item vars .empty).2 = none := by
    refine Option.eq_none_iff_forall_ne_some.2 fun e he => ?_
    rcases generate_eq_some_iff.1 he with hmissing | hbreaks
    · obtain ⟨found, hfound⟩ := exists_read_of_changeFor hfor
      rw [hfound] at hmissing
      cases hmissing
    · exact not_breaks hvalue hread hu hnext e hbreaks
  refine ⟨_, Prod.ext rfl hnone, ?_⟩
  rcases cases_of_generate (Prod.ext rfl hnone) with ⟨hidle, -⟩ | ⟨f, before, after, last, hf, hb,
    ha, hlast, hext⟩
  · rw [hcurrent, hfor] at hidle
    cases hidle
  · rw [hcurrent] at hf hb hlast
    obtain rfl := Option.some.inj (Except.ok.inj (hfor.symm.trans hf))
    obtain rfl := Except.ok.inj (hread.symm.trans hb)
    obtain rfl := Except.ok.inj (hu.symm.trans ha)
    rw [hext.current]
    exact (Mutation.decode_of_run?_diff ho ht (hgentle _ _ _ _ hu) hlast).2.2

end Mutator

/-- Every change that is made of an object on its way can be made, and replayed, on the object as it
was received, if none needs another one before it. -/
theorem Mutation.Run.exists_alone {registry : ObjectRegistry} {vars : Variables}
    {holder : HolderReference} {ms : List Mutator} {object last : Json} {patch : Patch}
    (h : Run registry vars holder ms object patch last)
    (hms : ∀ m ∈ ms, m.Aimed registry ∧ m.Gentle) (ho : object.Ordered) {k : TemplateKind}
    (hdet : (changes ms vars holder object k).Pairwise Detached) {t : k.Object}
    (ht : registry.decode object = .ok ⟨k, t⟩) :
    ∀ f ∈ changes ms vars holder object k, ∃ u next, f t = .ok u ∧
      run? (diff (k.shape.toJson t) (k.shape.toJson u)) object = some next := by
  induction h generalizing t with
  | done object => simp [changes]
  | @idle m rest object last patch hidle _ ih =>
    rw [changes_cons_of_idle hidle] at hdet ⊢
    exact ih (fun m hm => hms m (List.mem_cons_of_mem _ hm)) ho hdet ht
  | @change m rest object next last patch f before after hf hb ha hnext _ ih =>
    have hb := ObjectRegistry.decodeAs_eq_ok_iff.1 hb
    rw [ht, Except.ok.injEq, TemplateObject.mk.injEq] at hb
    obtain ⟨rfl, hb⟩ := hb
    obtain rfl := eq_of_heq hb
    obtain ⟨-, -, hread⟩ := ObjectRegistry.decode_eq_ok_iff.1 ht
    have hg := (hms m List.mem_cons_self).2.of_changeFor hf ha
    obtain ⟨ho', hsame, ht'⟩ := decode_of_run?_diff ho ht hg hnext
    rw [changes_cons_of_change hsame hf] at hdet ⊢
    obtain ⟨hfirst, hdet⟩ := List.pairwise_cons.1 hdet
    -- a later change is first moved to the object as it was before this one
    refine List.forall_mem_cons.2 ⟨⟨after, next, ha, hnext⟩, fun g hmem => ?_⟩
    obtain ⟨v, last', hv, hlast'⟩ :=
      ih (fun m hm => hms m (List.mem_cons_of_mem _ hm)) ho' hdet ht' g hmem
    obtain ⟨u, hu, hdetached⟩ := hfirst g hmem ha hv
    obtain ⟨r, hr⟩ := hdetached ⟨ho, hread⟩ hnext hlast'
    exact ⟨u, r, hu, hr⟩

/-! ## All mutators -/

section

variable {owners : List Feature.Owner} {registry : ObjectRegistry} {vars : Variables}
  {holder : HolderReference} {object last : Json} {patch : Patch}

/-- The mutators of the owners of a provider are those of the provider. -/
theorem Feature.ofProvider_of_owners (h : OwnersOfProvider owners) :
    OfProvider (owners.map Owner.mutator) := by
  obtain rfl | rfl := h
  · exact .inl map_mutator_dockerOwners
  · exact .inr map_mutator_awsOwners

/-- A mutator with a value for an object makes its change of the objects of its kind. -/
theorem Mutator.changeOf?_of_valueFor? {m : Mutator} {value : m.Input}
    (h : m.valueFor? vars holder object = some value) :
    m.changeOf? vars holder object m.kind = some (m.change ⟨vars, holder⟩ value) := by
  simp [changeOf?, changeFor_eq_iff.2 ⟨value, h, rfl⟩]

/-- An owner with a value for an object has its change and its fields as its share. -/
theorem Feature.Owner.share?_of_valueFor? {o : Owner} {value : o.mutator.Input}
    (h : o.mutator.valueFor? vars holder object = some value) :
    o.share? vars holder object o.mutator.kind =
      some (o.mutator.change ⟨vars, holder⟩ value, o.owned value) := by
  simp only [share?, h, dite_true]

/-- What an object that went through all mutators of a provider is read as at last differs from what
it was read as at first in the fields that they own, and there it is what each of them makes
alone. -/
theorem Mutation.Run.exists_separate (howners : Feature.OwnersOfProvider owners)
    (hms : ∀ m ∈ owners.map Feature.Owner.mutator, m.Aimed registry ∧ m.Gentle)
    (h : Run registry vars holder (owners.map Feature.Owner.mutator) object patch last)
    (hobject : object.Ordered) {k : TemplateKind} {t : k.Object}
    (ht : registry.decode object = .ok ⟨k, t⟩) :
    ∃ t', registry.decode last = .ok ⟨k, t'⟩ ∧
      (k.fields.clearAll (owners.flatMap fun o => o.fieldsOf vars holder object) t' =
        k.fields.clearAll (owners.flatMap fun o => o.fieldsOf vars holder object) t ∧
      k.fields.commands t <+: k.fields.commands t') ∧
      ∀ share ∈ owners.filterMap fun o => o.share? vars holder object k,
        ∃ u, share.1 t = .ok u ∧
          ∀ field ∈ share.2, k.fields.read field u = k.fields.read field t' := by
  obtain ⟨-, -, t', hall, hlast⟩ := h.decode hms hobject ht
  rw [Feature.changes_map_mutator] at hall
  have howns : ∀ share ∈ owners.filterMap fun o => o.share? vars holder object k,
      k.fields.Owns share.2 share.1 := by
    intro share hshare
    obtain ⟨o, -, ho⟩ := List.mem_filterMap.1 hshare
    exact Feature.Owner.owns_of_share? ho
  obtain ⟨hframe, hgrows, halone⟩ :=
    Feature.FieldView.run_owned howns (Feature.pairwise_disjoint_shares howners) hall
  -- all that change the object are for its kind
  have hkind : ∀ o ∈ owners, ∀ value, o.mutator.valueFor? vars holder object = some value →
      o.mutator.kind = k := by
    intro o ho value hvalue
    have hnames := (hms _ (List.mem_map_of_mem ho)).1.names
      ⟨_, Mutator.changeFor_eq_iff.2 ⟨value, hvalue, rfl⟩⟩
    exact hnames.unique (ObjectRegistry.decode_eq_ok_iff.1 ht).2.1
  rw [Feature.flatMap_snd_shares hkind] at hframe
  exact ⟨t', hlast, ⟨hframe, hgrows⟩, halone⟩

end

namespace Handler

/-- When a handler of the extension answers with patches, every object that is read as a template is
afterwards read as a template of the same kind; the two differ in the fields alone that the mutators
own which change the object, and commands are appended at most. Each of these mutators, alone, makes
of the template that was received one with the same in the fields that it owns, and it changes the
object alone, without an error, into one that is read as that. -/
theorem separate_of_generatePatches {registry : ObjectRegistry} {h : Handler}
    {owners : List Feature.Owner}
    (hh : docker registry = .ok h ∧ owners = Feature.dockerOwners ∨
      aws registry = .ok h ∧ owners = Feature.awsOwners)
    (request : GeneratePatches.Request) (token : CancellationToken)
    (hnd : (request.items.map (·.uid)).Nodup) (hord : ∀ item ∈ request.items, item.object.Ordered)
    (hok : (h.generatePatches request token).status = .success) :
    owners.map Feature.Owner.mutator = h.mutators ∧
    ∀ item ∈ request.items, ∃ (patch : Patch) (last : Json),
      GeneratePatches.Carries (h.generatePatches request token).items item.uid patch ∧
      patch.apply item.object = .ok last ∧
      (∀ k t, h.registry.decode item.object = .ok ⟨k, t⟩ →
        ∃ t', h.registry.decode last = .ok ⟨k, t'⟩ ∧
          k.fields.clearAll (owners.flatMap fun o =>
              o.fieldsOf (variablesFor request item) item.holderReference item.object) t' =
            k.fields.clearAll (owners.flatMap fun o =>
              o.fieldsOf (variablesFor request item) item.holderReference item.object) t ∧
          k.fields.commands t <+: k.fields.commands t') ∧
      ∀ o ∈ owners, ∀ value,
        o.mutator.valueFor? (variablesFor request item) item.holderReference item.object =
          some value →
        ∃ t u t' : o.mutator.kind.Object,
          h.registry.decode item.object = .ok ⟨o.mutator.kind, t⟩ ∧
          o.mutator.change ⟨variablesFor request item, item.holderReference⟩ value t = .ok u ∧
          h.registry.decode last = .ok ⟨o.mutator.kind, t'⟩ ∧
          (∀ field ∈ o.owned value,
            o.mutator.kind.fields.read field t' = o.mutator.kind.fields.read field u) ∧
          ∃ l, o.mutator.generate h.registry item (variablesFor request item) .empty = (l, none) ∧
            h.registry.decode (l.current item.uid item.object) = .ok ⟨o.mutator.kind, u⟩ := by
  have howners : Feature.OwnersOfProvider owners := hh.imp And.right And.right
  have hmap : owners.map Feature.Owner.mutator = h.mutators := by
    obtain ⟨hh, rfl⟩ | ⟨hh, rfl⟩ := hh
    · exact Feature.map_mutator_dockerOwners.trans (mutators_of_ofProvider hh).symm
    · exact Feature.map_mutator_awsOwners.trans (mutators_of_ofProvider hh).symm
  refine ⟨hmap, fun item hitem => ?_⟩
  obtain ⟨patch, last, hrun, hcarries⟩ := exists_run_of_generatePatches hok hnd hitem
  rw [← hmap] at hrun
  have hprovider := Feature.ofProvider_of_owners howners
  have hms : ∀ m ∈ owners.map Feature.Owner.mutator, m.Aimed h.registry ∧ m.Gentle :=
    fun m hm => ⟨h.aimed_of_mem (hmap ▸ hm), (Feature.again_of_mem hprovider hm).gentle⟩
  refine ⟨patch, last, hcarries, apply_eq_ok_iff.2 hrun.run?_eq, fun k t ht => ?_,
    fun o ho value hvalue => ?_⟩
  -- the whole run: what is outside of the owned fields stays
  · obtain ⟨t', hlast, hframe, -⟩ := hrun.exists_separate howners hms (hord item hitem) ht
    exact ⟨t', hlast, hframe⟩
  -- one mutator: its fields are those of its change made alone, which can be replayed
  · have hm : o.mutator ∈ owners.map Feature.Owner.mutator := List.mem_map_of_mem ho
    have happ := Mutator.changeFor_eq_iff.2 ⟨value, hvalue, rfl⟩
    obtain ⟨t, ht, -⟩ := hrun.exists_decode (fun m hm => (hms m hm).1) hm ⟨_, happ⟩
    obtain ⟨t', hlast, -, hread⟩ := hrun.exists_separate howners hms (hord item hitem) ht
    obtain ⟨u, hu, hread⟩ := hread _
      (List.mem_filterMap.2 ⟨o, ho, Feature.Owner.share?_of_valueFor? hvalue⟩)
    obtain ⟨u', next, hu', hnext⟩ := hrun.exists_alone hms (hord item hitem)
      (Feature.pairwise_detached hprovider) ht _
      (List.mem_filterMap.2 ⟨_, hm, Mutator.changeOf?_of_valueFor? hvalue⟩)
    obtain rfl := Except.ok.inj (hu.symm.trans hu')
    exact ⟨t, u, t', ht, hu, hlast, fun field hfield => (hread field hfield).symm,
      Mutator.exists_generate (hms _ hm).2 (hord item hitem) hvalue ht hu hnext⟩

/-- The handler of a provider has the registry that it was built with. -/
theorem registry_of_ofProvider {α β : Type} {name : String} {cluster : Shape α} {worker : Shape β}
    {own : List Mutator} {registry : ObjectRegistry} {h : Handler}
    (hh : ofProvider name cluster worker own registry = .ok h) : h.registry = registry := by
  unfold ofProvider at hh
  split at hh
  · exact (Draft.build_eq_ok_iff.1 hh).2
  · cases hh
  · cases hh

/-! ## A control plane -/

namespace ControlPlane

/-- A template of a control plane with a name for the certificate, a file and a command. -/
def item : GeneratePatches.RequestItem where
  uid := "uid"
  holderReference := ⟨"cluster.x-k8s.io/v1beta1", "Cluster", "", "test", "spec.controlPlaneRef"⟩
  object := .obj [("apiVersion", .str "controlplane.cluster.x-k8s.io/v1beta1"),
    ("kind", .str "KubeadmControlPlaneTemplate"),
    ("spec", .obj [("template", .obj [("spec", .obj [("kubeadmConfigSpec", .obj [
      ("clusterConfiguration", .obj [("apiServer", .obj [("certSANs", .arr [.str "api.test"])])]),
      ("files", .arr [.obj [("path", .str "/etc/motd")]]),
      ("preKubeadmCommands", .arr [.str "date"])])])])])]
  bindings := []

/-- A request that configures an image repository, a tag for etcd, another name and a proxy. -/
def request : GeneratePatches.Request :=
  { GeneratePatches.Request.blank with
    bindings := [⟨"clusterConfig", .obj [
      ("etcd", .obj [("image", .obj [("tag", .str "3.5.9-0")])]),
      ("extraAPIServerCertSANs", .arr [.str "lb.test"]),
      ("kubernetesImageRepository", .str "registry.test"),
      ("proxy", .obj [("http", .str "http://proxy.test")])], none⟩]
    items := [item] }

/-- The objects of the request are in order. -/
theorem ordered_object : ∀ item ∈ request.items, item.object.Ordered := by
  decide +kernel

/-- What the template is read as. -/
def template : TemplateKind.kubeadmControlPlane.Object where
  apiVersion := "controlplane.cluster.x-k8s.io/v1beta1"
  kind := "KubeadmControlPlaneTemplate"
  metadata := .blank
  spec := ⟨some ⟨none, none, some ⟨["api.test"], ∅⟩⟩, [⟨"/etc/motd", none, none, none⟩], ["date"],
    [], []⟩

/-- The handler for Docker answers the request with patches. -/
theorem success_docker {h : Handler} (hh : docker .full = .ok h) :
    (h.generatePatches request .never).status = .success := by
  have hall : ((docker .full).toOption.all fun h =>
      (h.generatePatches request .never).status == .success) = true := by
    decide +kernel
  simpa [hh, Except.toOption] using hall

end ControlPlane

/-- The handler for Docker sets all of this in the template, next to what is there. -/
theorem separate_of_generatePatches_controlPlane : ∃ (h : Handler) (patch : Patch) (last : Json)
    (t : TemplateKind.kubeadmControlPlane.Object), docker .full = .ok h ∧
      GeneratePatches.Carries (h.generatePatches ControlPlane.request .never).items "uid" patch ∧
      patch.apply ControlPlane.item.object = .ok last ∧
      ObjectRegistry.full.decode last = .ok ⟨.kubeadmControlPlane, t⟩ ∧
      TemplateKind.kubeadmControlPlane.fields.read .imageRepository t = some "registry.test" ∧
      TemplateKind.kubeadmControlPlane.fields.read .etcdTag t = some "3.5.9-0" ∧
      TemplateKind.kubeadmControlPlane.fields.read .certSANs t = some ["api.test", "lb.test"] ∧
      ["date"] <+: t.spec.preKubeadmCommands := by
  obtain ⟨h, hh, -⟩ := Accounts.exists_docker
  obtain ⟨-, hall⟩ := separate_of_generatePatches (.inl ⟨hh, rfl⟩) ControlPlane.request .never
    (by decide) ControlPlane.ordered_object (ControlPlane.success_docker hh)
  obtain ⟨patch, last, hcarries, happly, hframe, howned⟩ := hall _ (List.mem_singleton_self _)
  rw [registry_of_ofProvider hh] at hframe howned
  obtain ⟨t, hlast, -, hgrows⟩ := hframe .kubeadmControlPlane ControlPlane.template rfl
  have hsame {t' : TemplateKind.kubeadmControlPlane.Object}
      (ht' : ObjectRegistry.full.decode last = .ok ⟨.kubeadmControlPlane, t'⟩) : t' = t :=
    eq_of_heq (TemplateObject.mk.inj (Except.ok.inj (ht'.symm.trans hlast))).2
  refine ⟨h, patch, last, t, hh, hcarries, happly, hlast, ?_, ?_, ?_, hgrows⟩
  · obtain ⟨t₀, u, t', ht₀, hu, ht', hread, -⟩ :=
      howned Feature.dockerOwners[0] (List.getElem_mem _) "registry.test" rfl
    obtain rfl : ControlPlane.template = t₀ :=
      eq_of_heq (TemplateObject.mk.inj (Except.ok.inj ht₀)).2
    obtain rfl := Except.ok.inj hu
    obtain rfl := hsame ht'
    exact hread .imageRepository (List.mem_singleton_self _)
  · obtain ⟨t₀, u, t', ht₀, hu, ht', hread, -⟩ :=
      howned Feature.dockerOwners[1] (List.getElem_mem _) ⟨some ⟨none, some "3.5.9-0"⟩⟩ rfl
    obtain rfl : ControlPlane.template = t₀ :=
      eq_of_heq (TemplateObject.mk.inj (Except.ok.inj ht₀)).2
    obtain rfl := Except.ok.inj hu
    obtain rfl := hsame ht'
    exact hread .etcdTag (List.mem_singleton_self _)
  · obtain ⟨t₀, u, t', ht₀, hu, ht', hread, -⟩ :=
      howned Feature.dockerOwners[2] (List.getElem_mem _) ["lb.test"] rfl
    obtain rfl : ControlPlane.template = t₀ :=
      eq_of_heq (TemplateObject.mk.inj (Except.ok.inj ht₀)).2
    obtain rfl := Except.ok.inj hu
    obtain rfl := hsame ht'
    exact hread .certSANs (List.mem_singleton_self _)

end Handler

end TopologyHooks
