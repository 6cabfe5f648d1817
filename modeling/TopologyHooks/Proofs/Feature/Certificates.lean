import TopologyHooks.Feature.ControlPlane
import TopologyHooks.Proofs.Feature.Outcome
import TopologyHooks.Proofs.Template.Difference
import TopologyHooks.Proofs.Upsert

/-!
# Names are appended to certificates

* `Feature.Appends` — a patch that appends items to a list at a path: behind the last item, or by
  adding the first block on the path that is missing.
* `Feature.generate_certSANs` — what the mutator of names for the certificate of the API server does
  to a control plane that it changes or leaves alone: new names follow those that are there, and all
  steps add.
-/

set_option autoImplicit false

namespace TopologyHooks

open Patch Operation

namespace Feature

/-! ## Patches that append -/

/-- Whether a patch appends items to a list of some size at a path. It adds them one by one behind
the last item, or, where there are no items yet, adds the list or what holds it as a whole. -/
inductive Appends (items : List Json) : (path : List String) → (size : Nat) → Patch → Prop
  | nothing {path : List String} {size : Nat} : items = [] → Appends items path size []
  | behind {path : List String} {size : Nat} : size ≠ 0 →
    Appends items path size ((addsFrom size items).map (shift path))
  | block {outer inner : List String} {value : Json} : items ≠ [] →
    Appends items (outer ++ inner) 0 [add ⟨outer⟩ value]

namespace Appends

variable {items : List Json} {path : List String} {size : Nat} {p : Patch}

/-- A patch that appends to a list still does so when both are moved to a deeper place. -/
theorem map_shift (outer : List String) (h : Appends items path size p) :
    Appends items (outer ++ path) size (p.map (shift outer)) := by
  cases h with
  | nothing h => exact .nothing h
  | behind h =>
    rw [map_shift_shift]
    exact .behind h
  | block h =>
    rw [← List.append_assoc]
    exact .block h

/-- A member that holds the list is appended to, or added if it is missing. -/
theorem member {key : String} {o : Option Json} {y : Json}
    (hnone : o = none → items ≠ [] ∧ size = 0)
    (hsome : ∀ x, o = some x → Appends items path size (diff x y)) :
    Appends items (key :: path) size (memberDiff key o (some y)) := by
  cases o with
  | none =>
    obtain ⟨hitems, rfl⟩ := hnone rfl
    show Appends items ([key] ++ path) 0 [add ⟨[key]⟩ y]
    exact .block hitems
  | some x => exact (hsome x rfl).map_shift [key]

/-- The same for a member that is written if an option has a value. -/
theorem optional {key : String} {γ : Type} {inner : Shape γ} {o : Option γ} {y : Json}
    (hnone : o = none → items ≠ [] ∧ size = 0)
    (hsome : ∀ c, o = some c → Appends items path size (diff (inner.toJson c) y)) :
    Appends items (key :: path) size (memberDiff key (o.map inner.toJson) (some y)) := by
  refine member (fun h => hnone (Option.map_eq_none_iff.1 h)) fun x hx => ?_
  obtain ⟨c, hc, rfl⟩ := Option.map_eq_some_iff.1 hx
  exact hsome c hc

/-- A patch that appends items has no steps exactly if there are no items. -/
theorem eq_nil_iff (h : Appends items path size p) : p = [] ↔ items = [] := by
  cases h with
  | nothing h => simp [h]
  | behind h => simp [addsFrom]
  | block h => simp [h]

/-- All steps add, and those that find items add behind them. -/
theorem exists_add (h : Appends items path size p) {o : Operation} (ho : o ∈ p) :
    ∃ tokens value, o = .add ⟨tokens⟩ value ∧ (size = 0 → tokens <+: path) ∧
      (size ≠ 0 → ∃ i, size ≤ i ∧ tokens = path ++ [toString i]) := by
  cases h with
  | nothing h => cases ho
  | behind h =>
    obtain ⟨o, hadd, rfl⟩ := List.mem_map.1 ho
    obtain ⟨i, hi, rfl⟩ := List.mem_mapIdx.1 hadd
    exact ⟨_, _, rfl, fun h0 => absurd h0 h, fun _ => ⟨size + i, Nat.le_add_right _ _, rfl⟩⟩
  | block h =>
    obtain rfl := List.mem_singleton.1 ho
    exact ⟨_, _, rfl, fun _ => List.prefix_append _ _, fun h0 => absurd rfl h0⟩

end Appends

end Feature

/-! ## Where the names are written -/

namespace Kubeadm

/-- The steps between two API servers with more names are those between the lists, moved to their
member. -/
theorem ApiServer.diff_withNames {server : ApiServer} {more : List String}
    (h : (shape.toJson server).Ordered)
    (h' : (shape.toJson { server with certSANs := server.certSANs ++ more }).Ordered)
    (hmore : server.certSANs = [] → more ≠ []) :
    Feature.Appends (more.map .str) ["certSANs"] server.certSANs.length
      (diff (shape.toJson server)
        (shape.toJson { server with certSANs := server.certSANs ++ more })) := by
  obtain ⟨names, args⟩ := server
  have htext : Shape.text.toJson = .str := funext Shape.toJson_text
  have hnew : names ++ more ≠ [] := fun hnil => by
    obtain ⟨hnone, hempty⟩ := List.append_eq_nil_iff.1 hnil
    exact hmore hnone hempty
  have hdiff : diff (shape.toJson ⟨names, args⟩) (shape.toJson ⟨names ++ more, args⟩) =
      memberDiff "certSANs" ((Presence.omitted [] List.isEmpty).written (.list .text) names)
        ((Presence.omitted [] List.isEmpty).written (.list .text) (names ++ more)) :=
    Shape.diff_record_of_set (i := 0) regular_shape.2.2.2.nodup_keys h h' rfl rfl rfl
  rw [Presence.written_listed hnew, htext] at hdiff
  rw [hdiff]
  refine Feature.Appends.member (fun hnone => ?_) fun x hx => ?_
  · by_cases hnames : names = []
    · simp [hnames, hmore hnames]
    · rw [Presence.written_listed hnames] at hnone
      cases hnone
  · by_cases hnames : names = []
    · subst hnames
      cases hx
    · rw [Presence.written_listed hnames, htext] at hx
      obtain rfl := Option.some.inj hx
      have hordered : (Json.arr (names.map .str)).Ordered :=
        Json.ordered_arr.2 (by simp [Json.Ordered])
      rw [List.map_append, diff_arr_append hordered, List.length_map]
      have hbehind : Feature.Appends (more.map .str) [] names.length
          ((addsFrom names.length (more.map .str)).map (shift [])) :=
        .behind (by simpa using hnames)
      rwa [List.map_id'' shift_nil] at hbehind

/-- The steps between settings with another API server are those between the API servers, moved to
their member. -/
theorem ClusterConfiguration.diff_withServer {c : ClusterConfiguration} {server : ApiServer}
    (h : (shape.toJson c).Ordered)
    (h' : (shape.toJson { c with apiServer := some server }).Ordered) :
    diff (shape.toJson c) (shape.toJson { c with apiServer := some server }) =
      memberDiff "apiServer" (c.apiServer.map ApiServer.shape.toJson)
        (some (ApiServer.shape.toJson server)) :=
  Shape.diff_record_of_optional (i := 2) regular_shape.2.2.2.nodup_keys h h' rfl rfl rfl

/-- An API server is written in order if the settings that hold it are. -/
theorem ClusterConfiguration.ordered_server {c : ClusterConfiguration} {server : ApiServer}
    (h : (shape.toJson c).Ordered) (hserver : c.apiServer = some server) :
    (ApiServer.shape.toJson server).Ordered :=
  Shape.ordered_of_optional (i := 2) regular_shape.2.2.2.nodup_keys h rfl rfl hserver

end Kubeadm

namespace KubeadmConfigSpec

open Kubeadm

/-- The steps between set-ups with other settings are those between the settings, moved to their
member. -/
theorem diff_withCluster {s : KubeadmConfigSpec} {c : ClusterConfiguration}
    (h : (shape.toJson s).Ordered)
    (h' : (shape.toJson { s with clusterConfiguration := some c }).Ordered) :
    diff (shape.toJson s) (shape.toJson { s with clusterConfiguration := some c }) =
      memberDiff "clusterConfiguration"
        (s.clusterConfiguration.map ClusterConfiguration.shape.toJson)
        (some (ClusterConfiguration.shape.toJson c)) :=
  Shape.diff_record_of_optional (i := 0) regular_shape.2.2.2.nodup_keys h h' rfl rfl rfl

/-- The settings of the components are written in order if the set-up that holds them is. -/
theorem ordered_cluster {s : KubeadmConfigSpec} {c : ClusterConfiguration}
    (h : (shape.toJson s).Ordered) (hcluster : s.clusterConfiguration = some c) :
    (ClusterConfiguration.shape.toJson c).Ordered :=
  Shape.ordered_of_optional (i := 0) regular_shape.2.2.2.nodup_keys h rfl rfl hcluster

end KubeadmConfigSpec

/-! ## The mutator -/

namespace Feature

open Kubeadm

/-- The names for the certificate of the API server. -/
def namesOf (s : KubeadmConfigSpec) : List String :=
  match s.clusterConfiguration.bind ClusterConfiguration.apiServer with
  | none => []
  | some server => server.certSANs

/-- Those of some names that are not there, each once, in the order of first occurrence. -/
def newNames (there names : List String) : List String := (names.filter (· ∉ there)).eraseDups

/-- None of some names is new exactly if all of them are there. -/
theorem newNames_eq_nil_iff {there names : List String} :
    newNames there names = [] ↔ ∀ name ∈ names, name ∈ there := by
  simp [newNames, List.eq_nil_iff_forall_not_mem]

/-- Where no names are there yet, some names bring new ones. -/
theorem newNames_ne_nil {names : List String} (h : names ≠ []) : newNames [] names ≠ [] := by
  obtain ⟨name, rest, rfl⟩ := List.exists_cons_of_ne_nil h
  exact fun hnil => List.not_mem_nil (newNames_eq_nil_iff.1 hnil name List.mem_cons_self)

/-- The API server with the new ones of some names behind its own; a missing one is created. -/
def serverWithNew (names : List String) (s : KubeadmConfigSpec) : ApiServer :=
  let server := (s.clusterConfiguration.bind ClusterConfiguration.apiServer).getD .blank
  { server with certSANs := server.certSANs ++ newNames server.certSANs names }

/-- Adding some names sets the API server to the one with the new ones behind its own. -/
theorem addCertSANs_eq {names : List String} (h : names ≠ []) (s : KubeadmConfigSpec) :
    addCertSANs names s =
      { s with
        clusterConfiguration := some
          { s.clusterConfiguration.getD .blank with
            apiServer := some (serverWithNew names s) } } := by
  rw [addCertSANs, if_neg (by simpa using h)]
  simp only [KubeadmConfigSpec.modifyCluster, appendAllNew_eq]
  obtain ⟨_ | ⟨repository, etcd, _ | server⟩, files, before, after, us⟩ := s <;> rfl

/-- After names are added, the new ones follow those that were there. -/
theorem namesOf_addCertSANs (names : List String) (s : KubeadmConfigSpec) :
    namesOf (addCertSANs names s) = namesOf s ++ newNames (namesOf s) names := by
  by_cases h : names = []
  · subst h
    exact (List.append_nil _).symm
  · rw [addCertSANs_eq h]
    obtain ⟨_ | ⟨repository, etcd, _ | server⟩, files, before, after, us⟩ := s <;> rfl

/-- The steps of adding names to a set-up append the new ones to the list of names. -/
theorem appends_addCertSANs {names : List String} (hnames : names ≠ []) {s : KubeadmConfigSpec}
    (h : (KubeadmConfigSpec.shape.toJson s).Ordered)
    (h' : (KubeadmConfigSpec.shape.toJson (addCertSANs names s)).Ordered) :
    Appends ((newNames (namesOf s) names).map .str)
      ["clusterConfiguration", "apiServer", "certSANs"] (namesOf s).length
      (diff (KubeadmConfigSpec.shape.toJson s)
        (KubeadmConfigSpec.shape.toJson (addCertSANs names s))) := by
  have hnew : (newNames [] names).map Json.str ≠ [] := by
    simpa using newNames_ne_nil hnames
  rw [addCertSANs_eq hnames] at h' ⊢
  rw [KubeadmConfigSpec.diff_withCluster h h']
  -- a block on the way to the names that is missing is added as a whole; others are descended into
  obtain ⟨cluster, files, before, after, us⟩ := s
  refine Appends.optional ?_ ?_
  · rintro rfl
    exact ⟨hnew, rfl⟩
  · rintro c rfl
    have hc := KubeadmConfigSpec.ordered_cluster h rfl
    have hc' := KubeadmConfigSpec.ordered_cluster h' rfl
    have hserver := ClusterConfiguration.diff_withServer hc hc'
    obtain ⟨repository, etcd, server⟩ := c
    refine hserver.symm ▸ Appends.optional ?_ ?_
    · rintro rfl
      exact ⟨hnew, rfl⟩
    · rintro server rfl
      refine ApiServer.diff_withNames (ClusterConfiguration.ordered_server hc rfl)
        (ClusterConfiguration.ordered_server hc' rfl) fun hnone => ?_
      show newNames server.certSANs names ≠ []
      rw [hnone]
      exact newNames_ne_nil hnames

/-- The place of the names in a control plane. -/
def namesPath : List String :=
  ["spec", "template", "spec", "kubeadmConfigSpec", "clusterConfiguration", "apiServer",
    "certSANs"]

/-- The steps of adding names to a control plane append the new ones to the list of names. -/
theorem appends_diff {names : List String} {t : TemplateKind.kubeadmControlPlane.Object}
    (h : (TemplateKind.kubeadmControlPlane.shape.toJson t).Ordered)
    (h' : (TemplateKind.kubeadmControlPlane.shape.toJson
      { t with spec := addCertSANs names t.spec }).Ordered) :
    Appends ((newNames (namesOf t.spec) names).map .str) namesPath (namesOf t.spec).length
      (diff (TemplateKind.kubeadmControlPlane.shape.toJson t)
        (TemplateKind.kubeadmControlPlane.shape.toJson
          { t with spec := addCertSANs names t.spec })) := by
  by_cases hnames : names = []
  · -- without names the mutator creates no block either
    subst hnames
    have hsame : diff (TemplateKind.kubeadmControlPlane.shape.toJson t)
        (TemplateKind.kubeadmControlPlane.shape.toJson
          { t with spec := addCertSANs [] t.spec }) = [] := diff_self h
    rw [hsame]
    exact .nothing rfl
  · have hs := Template.ordered_toJson_boxed.1 (TemplateKind.ordered_spec h)
    have hs' := Template.ordered_toJson_boxed.1 (TemplateKind.ordered_spec h')
    have hbox : diff (KubeadmConfigSpec.controlPlaneShape.toJson t.spec)
        (KubeadmConfigSpec.controlPlaneShape.toJson (addCertSANs names t.spec)) =
        (diff (KubeadmConfigSpec.shape.toJson t.spec)
          (KubeadmConfigSpec.shape.toJson (addCertSANs names t.spec))).map
            (shift ["kubeadmConfigSpec"]) := Template.diff_boxed
    have hspec := (appends_addCertSANs hnames hs hs').map_shift ["kubeadmConfigSpec"]
    rw [← hbox] at hspec
    rw [TemplateKind.diff_withSpec h h']
    exact hspec.map_shift ["spec", "template", "spec"]

/-- When names for the certificate of the API server are configured, and their mutator changes a
control plane or leaves it alone, the new ones among them follow those that are there, each once, in
the order of first occurrence. All steps add, behind the last name if there are any, and there is no
step exactly if no name is new. -/
theorem generate_certSANs {registry : ObjectRegistry} {item : GeneratePatches.RequestItem}
    {vars : Variables} {l l' : Ledger} {names : List String}
    {t : TemplateKind.kubeadmControlPlane.Object}
    (hread : (clusterConfig ["extraAPIServerCertSANs"]).get (.list .text) vars = .ok (some names))
    (hs : certSANs[0].selector.selects (l.current item.uid item.object) item.holderReference
      vars = true)
    (ho : (l.current item.uid item.object).Ordered)
    (hd : registry.decode (l.current item.uid item.object) = .ok ⟨.kubeadmControlPlane, t⟩)
    (h : certSANs[0].generate registry item vars l = (l', none)) :
    ∃ (patch : Patch) (t' : TemplateKind.kubeadmControlPlane.Object),
      patch.apply (l.current item.uid item.object) = .ok (l'.current item.uid item.object) ∧
      l'.operations item.uid = l.operations item.uid ++ patch ∧
      registry.decode (l'.current item.uid item.object) = .ok ⟨.kubeadmControlPlane, t'⟩ ∧
      namesOf t'.spec = namesOf t.spec ++ (names.filter (· ∉ namesOf t.spec)).eraseDups ∧
      (∀ o ∈ patch, ∃ tokens value, o = .add ⟨tokens⟩ value ∧
        (namesOf t.spec = [] → tokens <+: namesPath) ∧
        (namesOf t.spec ≠ [] →
          ∃ i, (namesOf t.spec).length ≤ i ∧ tokens = namesPath ++ [toString i])) ∧
      (patch = [] ↔ ∀ name ∈ names, name ∈ namesOf t.spec) := by
  obtain ⟨next, hrun, hext, ho', hd'⟩ := exists_extends_of_generate_mutator hread hs ho hd rfl h
  have hreads := (ObjectRegistry.decode_eq_ok_iff.1 hd).2.2
  have hreads' := (ObjectRegistry.decode_eq_ok_iff.1 hd').2.2
  have happends := appends_diff
    (Shape.ordered_toJson _ (TemplateKind.regular_shape _) ⟨ho, hreads⟩)
    (Shape.ordered_toJson _ (TemplateKind.regular_shape _) ⟨ho', hreads'⟩)
  refine ⟨_, _, ?_, hext.operations, hd', namesOf_addCertSANs names t.spec, fun o hmem => ?_, ?_⟩
  · rw [hext.current]
    exact apply_eq_ok_iff.2 hrun
  · obtain ⟨tokens, value, heq, hnone, hsome⟩ := happends.exists_add hmem
    exact ⟨tokens, value, heq, fun h0 => hnone (by simpa using h0),
      fun h0 => hsome (by simpa using h0)⟩
  · exact happends.eq_nil_iff.trans (List.map_eq_nil_iff.trans newNames_eq_nil_iff)

namespace Named

/-- A control plane with a name for its certificate. -/
def item : GeneratePatches.RequestItem where
  uid := "uid"
  holderReference := ⟨"cluster.x-k8s.io/v1beta1", "Cluster", "", "test", "spec.controlPlaneRef"⟩
  object := .obj [("apiVersion", .str "controlplane.cluster.x-k8s.io/v1beta1"),
    ("kind", .str "KubeadmControlPlaneTemplate"),
    ("spec", .obj [("template", .obj [("spec", .obj [("kubeadmConfigSpec", .obj [
      ("clusterConfiguration", .obj [("apiServer", .obj [("certSANs",
        .arr [.str "api.test"])])])])])])])]
  bindings := []

/-- Another name, twice, around the one that is there. -/
def vars : Variables := .ofList [⟨"clusterConfig", .obj [("extraAPIServerCertSANs",
  .arr [.str "lb.test", .str "api.test", .str "lb.test"])], none⟩]

/-- What the control plane is read as. -/
def template : TemplateKind.kubeadmControlPlane.Object where
  apiVersion := "controlplane.cluster.x-k8s.io/v1beta1"
  kind := "KubeadmControlPlaneTemplate"
  metadata := .blank
  spec := { KubeadmConfigSpec.blank with
    clusterConfiguration := some ⟨none, none, some ⟨["api.test"], ∅⟩⟩ }

end Named

/-- The other name is appended once. -/
theorem generate_certSANs_named : ∃ (l : Ledger) (patch : Patch)
    (t : TemplateKind.kubeadmControlPlane.Object),
    certSANs[0].generate .full Named.item Named.vars .empty = (l, none) ∧ patch ≠ [] ∧
    patch.apply Named.item.object = .ok (l.current Named.item.uid Named.item.object) ∧
    ObjectRegistry.full.decode (l.current Named.item.uid Named.item.object) =
      .ok ⟨.kubeadmControlPlane, t⟩ ∧
    namesOf t.spec = ["api.test", "lb.test"] := by
  have hread : (clusterConfig ["extraAPIServerCertSANs"]).get (.list .text) Named.vars =
      .ok (some ["lb.test", "api.test", "lb.test"]) := rfl
  have hselects : certSANs[0].selector.selects
      (Ledger.empty.current Named.item.uid Named.item.object) Named.item.holderReference
      Named.vars = true := rfl
  have hordered : (Ledger.empty.current Named.item.uid Named.item.object).Ordered := by
    decide +kernel
  have hdecode : ObjectRegistry.full.decode
      (Ledger.empty.current Named.item.uid Named.item.object) =
      .ok ⟨.kubeadmControlPlane, Named.template⟩ := rfl
  have hnone : (certSANs[0].generate .full Named.item Named.vars .empty).2 = none := by
    decide +kernel
  obtain ⟨l, hdone⟩ : ∃ l, certSANs[0].generate .full Named.item Named.vars .empty = (l, none) :=
    ⟨_, Prod.snd_eq_iff.1 hnone⟩
  obtain ⟨patch, t, happly, -, hlast, hnames, -, hnil⟩ :=
    generate_certSANs hread hselects hordered hdecode hdone
  have hnew : ¬ ∀ name ∈ ["lb.test", "api.test", "lb.test"], name ∈ ["api.test"] := by decide
  exact ⟨l, patch, t, hdone, fun h0 => hnew (hnil.1 h0), happly, hlast,
    hnames.trans (by decide)⟩

end Feature

end TopologyHooks
