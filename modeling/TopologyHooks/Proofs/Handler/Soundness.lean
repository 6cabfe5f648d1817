import TopologyHooks.Feature.Aws
import TopologyHooks.Proofs.Feature.Spec
import TopologyHooks.Proofs.Shape.Tidy

/-!
# Patches lead to what the mutators made

Main statement: when a handler whose changes are gentle answers with patches, replaying the steps
for an object on the object as it was received succeeds and leads to an object that is read as
what the changes, one after the other, make of the template that was received
(`Handler.replay_of_generatePatches`). Without either of the conditions on owned fields this fails
(`Handler.not_replays_of_steady`).

The objects of a request are taken to be ordered, as they are in every request that is read from a
text (`GeneratePatches.ordered_of_ofText`).
-/

set_option autoImplicit false

namespace TopologyHooks

open Patch

namespace Draft

/-- A mutator without a fault selects objects of the kind that it changes. -/
theorem mutatorFault?_eq_none {definitions : List VariableDefinition} {registry : ObjectRegistry}
    {m : Mutator} (h : mutatorFault? definitions registry m = none) : m.Aimed registry := by
  unfold mutatorFault? at h
  split at h
  · cases h
  split at h
  · cases h
  split at h
  · cases h
  split at h
  · rename_i hs hc
    obtain ⟨hversion, hkind⟩ := not_or.1 hs
    exact ⟨not_not.1 hversion, not_not.1 hkind, hc⟩
  · cases h

end Draft

namespace Handler

/-- The mutators of a handler select objects of the kind that they change. -/
theorem aimed_of_mem (h : Handler) {m : Mutator} (hm : m ∈ h.mutators) : m.Aimed h.registry := by
  have hsound := h.sound
  unfold Draft.fault? at hsound
  split at hsound
  · cases hsound
  · exact Draft.mutatorFault?_eq_none (List.findSome?_eq_none_iff.1 hsound m hm)

/-- The variables in force for an item of a request. -/
def variablesFor (request : GeneratePatches.Request) (item : GeneratePatches.RequestItem) :
    Variables :=
  (Variables.ofList request.bindings).overlay item.bindings

/-- The items of a success are the patches. -/
theorem patches_of_success {h : Handler} {request : GeneratePatches.Request}
    {token : CancellationToken} (hok : (h.generatePatches request token).status = .success) :
    h.patches request token = .ok (h.generatePatches request token).items := by
  unfold generatePatches at hok ⊢
  cases hp : h.patches request token with
  | error e => simp [hp, GeneratePatches.Response.fail] at hok
  | ok items => simp [GeneratePatches.Response.success]

/-- When a handler answers with patches, every object of the request went through all mutators,
and the answer carries the steps. -/
theorem exists_run_of_generatePatches {h : Handler} {request : GeneratePatches.Request}
    {token : CancellationToken} (hok : (h.generatePatches request token).status = .success)
    (hnd : (request.items.map (·.uid)).Nodup) {item : GeneratePatches.RequestItem}
    (hitem : item ∈ request.items) :
    ∃ patch last, Mutation.Run h.registry (variablesFor request item) item.holderReference
        h.mutators item.object patch last ∧
      GeneratePatches.Carries (h.generatePatches request token).items item.uid patch :=
  exists_run_of_patches (patches_of_success hok) hnd hitem

/-- When a handler whose changes are gentle answers with patches, the steps for every object of the
request, which add, replace or remove, can be replayed on the object as it was received. An object
that no mutator changes stays the same; any other one is read as a template of one kind, and what
it becomes is read as what the changes for it make of that template, one after the other. -/
theorem replay_of_generatePatches (h : Handler) (hgentle : ∀ m ∈ h.mutators, m.Gentle)
    (request : GeneratePatches.Request) (token : CancellationToken)
    (hnd : (request.items.map (·.uid)).Nodup) (hord : ∀ item ∈ request.items, item.object.Ordered)
    (hok : (h.generatePatches request token).status = .success) :
    ∀ item ∈ request.items, ∃ (patch : Patch) (last : Json),
      GeneratePatches.Carries (h.generatePatches request token).items item.uid patch ∧
      patch.apply item.object = .ok last ∧ last.Ordered ∧
      (∀ o ∈ patch, o.word = "add" ∨ o.word = "replace" ∨ o.word = "remove") ∧
      ((∀ m ∈ h.mutators,
          ¬ m.Applies (variablesFor request item) item.holderReference item.object) →
        last = item.object) ∧
      ∀ m ∈ h.mutators, m.Applies (variablesFor request item) item.holderReference item.object →
        (∀ m' ∈ h.mutators,
          m'.Applies (variablesFor request item) item.holderReference item.object →
          m'.kind = m.kind) ∧
        ∃ t t' : m.kind.Object, h.registry.decode item.object = .ok ⟨m.kind, t⟩ ∧
          Mutation.applyAll (Mutation.changes h.mutators (variablesFor request item)
            item.holderReference item.object m.kind) t = .ok t' ∧
          h.registry.decode last = .ok ⟨m.kind, t'⟩ := by
  intro item hitem
  have hms : ∀ m ∈ h.mutators, m.Aimed h.registry ∧ m.Gentle :=
    fun m hm => ⟨h.aimed_of_mem hm, hgentle m hm⟩
  -- all that is said of an object follows from its way through the mutators
  obtain ⟨patch, last, hrun, hcarries⟩ := exists_run_of_generatePatches hok hnd hitem
  refine ⟨patch, last, hcarries, apply_eq_ok_iff.2 hrun.run?_eq, hrun.ordered hms (hord item hitem),
    fun o ho => (hrun.plain_of_mem o ho).word_eq, hrun.eq_of_not_applies, fun m hm happ => ?_⟩
  obtain ⟨t, ht, hkinds⟩ := hrun.exists_decode (fun m hm => h.aimed_of_mem hm) hm happ
  obtain ⟨-, -, t', ht', hlast⟩ := hrun.decode hms (hord item hitem) ht
  exact ⟨hkinds, t, t', ht, ht', hlast⟩

/-! ## Regions -/

namespace Region

/-- A handler that sets the region of clusters on AWS. -/
def handler : Handler where
  name := "region"
  definitions := [⟨"region", false, .anything⟩]
  mutators := [Feature.mutator "region" ⟨"region", []⟩ .awsCluster .infrastructureCluster .text
    fun region spec => .ok (Feature.setRegion region spec)]
  registry := .full
  sound := rfl

/-- A cluster with a null and with a member that no template has. -/
def item : GeneratePatches.RequestItem where
  uid := "uid"
  holderReference := ⟨"cluster.x-k8s.io/v1beta1", "Cluster", "", "test", "spec.infrastructureRef"⟩
  object := .obj [("apiVersion", .str "infrastructure.cluster.x-k8s.io/v1beta2"),
    ("extra/~", .bool true), ("kind", .str "AWSClusterTemplate"),
    ("spec", .obj [("template", .obj [("spec", .obj [("sshKeyName", .null)])])])]
  bindings := []

/-- A request to set the region of the cluster. -/
def request : GeneratePatches.Request :=
  { GeneratePatches.Request.blank with
    bindings := [⟨"region", .str "eu-west-1", none⟩]
    items := [item] }

/-- The object of the item is in order. -/
theorem ordered_object : item.object.Ordered := by
  decide +kernel

/-- The template of a cluster with a region. -/
def template (region : Option String) : Template Aws.ClusterSpec :=
  ⟨"infrastructure.cluster.x-k8s.io/v1beta2", "AWSClusterTemplate", .blank, ⟨region, none⟩⟩

end Region

/-- The handler for regions leads the cluster to the template with that region. -/
theorem replay_of_generatePatches_region :
    (Region.handler.generatePatches Region.request .never).status = .success ∧
      ∃ (patch : Patch) (last : Json),
        GeneratePatches.Carries (Region.handler.generatePatches Region.request .never).items "uid"
          patch ∧
        patch.apply Region.item.object = .ok last ∧
        Region.handler.registry.decode last =
          .ok ⟨.awsCluster, Region.template (some "eu-west-1")⟩ := by
  have hok : (Region.handler.generatePatches Region.request .never).status = .success := rfl
  obtain ⟨patch, last, hcarries, happly, -, -, -, hread⟩ :=
    replay_of_generatePatches Region.handler
      (by
        intro m hm
        obtain rfl := List.mem_singleton.1 hm
        exact Feature.gentle_mutator _ _ _ _ _ _)
      Region.request .never (by decide)
      (by
        intro item hitem
        obtain rfl := List.mem_singleton.1 hitem
        exact Region.ordered_object)
      hok Region.item (List.mem_singleton_self _)
  obtain ⟨-, t, t', ht, ht', hlast⟩ := hread _ (List.mem_singleton_self _) ⟨_, rfl⟩
  refine ⟨hok, patch, last, hcarries, happly, hlast.trans ?_⟩
  obtain rfl : Region.template none = t := eq_of_heq (TemplateObject.mk.inj (Except.ok.inj ht)).2
  obtain rfl : Region.template (some "eu-west-1") = t' := Except.ok.inj ht'
  rfl

end Handler

/-! ## Changes that are lost -/

namespace Template

variable {σ : Type}

/-- Whether a change of a template leaves its version and kind alone and all points in time in its
metadata. -/
structure Steady (before after : Template σ) : Prop where
  apiVersion : after.apiVersion = before.apiVersion
  kind : after.kind = before.kind
  creation : after.metadata.creationTimestamp = before.metadata.creationTimestamp
  deletion : after.metadata.deletionTimestamp = before.metadata.deletionTimestamp
  history : ∀ i, after.metadata.timeAt i = before.metadata.timeAt i

/-- Whether a change of a template sets no owned fields to null. -/
def SetsNoNull (before after : Template σ) : Prop :=
  ∀ i, after.metadata.fieldsAt i = some .null → before.metadata.fieldsAt i = some .null

/-- Whether a change of a template sets no owned fields to a value in which a zero at some place has
another sign than the one that was there. -/
def KeepsSigns (before after : Template σ) : Prop :=
  ∀ i old new, before.metadata.fieldsAt i = some old → after.metadata.fieldsAt i = some new →
    old.SignsKept new

/-- The same template with other owned fields of all changes. -/
def own (j : Json) (t : Template σ) : Template σ :=
  { t with metadata := { t.metadata with
      managedFields := t.metadata.managedFields.map
        (List.map fun f => { f with fieldsV1 := some j }) } }

/-- Other owned fields, as many and by the same managers, leave a template steady. -/
theorem steady_own (j : Json) (t : Template σ) : t.Steady (own j t) := by
  refine ⟨rfl, rfl, rfl, rfl, ?_⟩
  intro i
  simp only [ObjectMeta.timeAt, own]
  cases t.metadata.managedFields with
  | none => rfl
  | some fs => cases hf : fs[i]? <;> simp [hf]

/-- The owned fields of every change are the ones that were put there. -/
theorem eq_of_fieldsAt_own {j x : Json} {t : Template σ} {i : Nat}
    (h : (own j t).metadata.fieldsAt i = some x) : x = j := by
  simp only [ObjectMeta.fieldsAt, own] at h
  cases hm : t.metadata.managedFields with
  | none => simp [hm] at h
  | some fs => cases hf : fs[i]? <;> simp_all

end Template

namespace Handler

/-- Whether the patches of all handlers whose changes are of some sort lead to what is written the
same as what their changes make. -/
def Replays (sort : ∀ {σ : Type}, Template σ → Template σ → Prop) : Prop :=
  ∀ h : Handler,
    (∀ m ∈ h.mutators, ∀ ctx value before after,
      m.change ctx value before = .ok after → sort before after) →
    ∀ (request : GeneratePatches.Request) (token : CancellationToken),
      (request.items.map (·.uid)).Nodup → (∀ item ∈ request.items, item.object.Ordered) →
      (h.generatePatches request token).status = .success →
      ∀ item ∈ request.items, ∃ (patch : Patch) (last : Json),
        GeneratePatches.Carries (h.generatePatches request token).items item.uid patch ∧
        patch.apply item.object = .ok last ∧ last.Ordered ∧
        ∀ m ∈ h.mutators, m.Applies (variablesFor request item) item.holderReference item.object →
          ∃ t t' u : m.kind.Object, h.registry.decode item.object = .ok ⟨m.kind, t⟩ ∧
            Mutation.applyAll (Mutation.changes h.mutators (variablesFor request item)
              item.holderReference item.object m.kind) t = .ok t' ∧
            h.registry.decode last = .ok ⟨m.kind, u⟩ ∧
            (m.kind.shape.toJson u).same (m.kind.shape.toJson t') = true

/-- If changes of some sort are replayed, those of every narrower sort are. -/
theorem Replays.mono {sort sort' : ∀ {σ : Type}, Template σ → Template σ → Prop}
    (h : Replays sort)
    (hsort : ∀ {σ : Type} {before after : Template σ}, sort' before after → sort before after) :
    Replays sort' :=
  fun handler hchanges => h handler fun m hm ctx value before after ha =>
    hsort (hchanges m hm ctx value before after ha)

namespace Lost

/-- A zero with a sign. -/
def zero (negative : Bool) : Json := .num (.double { Double.zero with negative := negative })

/-- The same template with another region if the owned fields of its first change are the negative
zero. -/
def mark (t : Template Aws.ClusterSpec) : Template Aws.ClusterSpec :=
  if t.metadata.fieldsAt 0 = some (zero true) then t.modifySpec (Feature.setRegion "negative")
  else t

/-- A mark is no more than another region, so it is steady and sets no owned fields to null. -/
theorem steady_mark (t : Template Aws.ClusterSpec) : t.Steady (mark t) ∧ t.SetsNoNull (mark t) := by
  unfold mark
  split
  · exact ⟨⟨rfl, rfl, rfl, rfl, fun _ => rfl⟩, fun _ h => h⟩
  · exact ⟨⟨rfl, rfl, rfl, rfl, fun _ => rfl⟩, fun _ h => h⟩

/-- A mutator of clusters. -/
def mutator (name : String) (change : Template Aws.ClusterSpec → Template Aws.ClusterSpec) :
    Mutator where
  name := name
  reads := ⟨"zero", []⟩
  kind := .awsCluster
  selector := .infrastructureCluster .awsCluster
  Input := Json
  input := .json
  fallback := none
  change := fun _ _ t => .ok (change t)

/-- A handler that makes owned fields the negative zero, and looks for it afterwards. -/
def signs : Handler where
  name := "zero"
  definitions := [⟨"zero", false, .anything⟩]
  mutators := [mutator "negate" (.own (zero true)), mutator "mark" mark]
  registry := .full
  sound := rfl

/-- A handler that makes owned fields null. -/
def nulls : Handler where
  name := "zero"
  definitions := [⟨"zero", false, .anything⟩]
  mutators := [mutator "clear" (.own .null)]
  registry := .full
  sound := rfl

/-- The changes of the handler that looks at signs are steady, and set no owned fields to null. -/
theorem of_mem_signs : ∀ m ∈ signs.mutators, ∀ ctx value before after,
    m.change ctx value before = .ok after → before.Steady after ∧ before.SetsNoNull after := by
  refine List.forall_mem_cons.2 ⟨fun _ _ before _ h => ?_, fun m hm _ _ before _ h => ?_⟩
  · obtain rfl := Except.ok.inj h
    refine ⟨Template.steady_own _ before, ?_⟩
    intro i hnull
    cases Template.eq_of_fieldsAt_own hnull
  · obtain rfl := List.mem_singleton.1 hm
    obtain rfl := Except.ok.inj h
    exact steady_mark before

/-- The changes of the handler that makes nulls are steady, and keep the signs of zeros. -/
theorem of_mem_nulls : ∀ m ∈ nulls.mutators, ∀ ctx value before after,
    m.change ctx value before = .ok after → before.Steady after ∧ before.KeepsSigns after := by
  intro m hm _ _ before _ h
  obtain rfl := List.mem_singleton.1 hm
  obtain rfl := Except.ok.inj h
  refine ⟨Template.steady_own _ before, ?_⟩
  intro i old new _ hnew
  rw [Template.eq_of_fieldsAt_own hnew]
  exact Json.signsKept_null old

/-- A cluster with a zero as the owned fields of a change. -/
def item : GeneratePatches.RequestItem where
  uid := "uid"
  holderReference := ⟨"cluster.x-k8s.io/v1beta1", "Cluster", "", "test", "spec.infrastructureRef"⟩
  object := .obj [("apiVersion", .str "infrastructure.cluster.x-k8s.io/v1beta2"),
    ("kind", .str "AWSClusterTemplate"),
    ("metadata", .obj [("managedFields", .arr [.obj [("fieldsV1", zero false)]])])]
  bindings := []

/-- A request about the cluster. -/
def request : GeneratePatches.Request :=
  { GeneratePatches.Request.blank with
    bindings := [⟨"zero", .bool true, none⟩]
    items := [item] }

/-- What the cluster is read as. -/
def template : Template Aws.ClusterSpec where
  apiVersion := "infrastructure.cluster.x-k8s.io/v1beta2"
  kind := "AWSClusterTemplate"
  metadata := { ObjectMeta.blank with
    managedFields := some [⟨none, none, some (zero false), none, none, none, none⟩] }
  spec := .blank

/-- The objects of the request are in order. -/
theorem ordered_object : ∀ item ∈ request.items, item.object.Ordered := by
  decide +kernel

end Lost

/-- A change that makes a zero negative makes no patch, so that a later mutator does not see it:
what is at last differs from what all changes make. -/
theorem not_replays_of_signs : ¬ Replays fun before after =>
    before.Steady after ∧ before.SetsNoNull after := by
  intro hall
  obtain ⟨patch, last, hcarries, happly, -, hread⟩ :=
    hall Lost.signs Lost.of_mem_signs Lost.request .never (by decide) Lost.ordered_object rfl
      Lost.item (List.mem_singleton_self _)
  obtain ⟨t, t', u, ht, ht', hu, hsame⟩ := hread _ List.mem_cons_self ⟨_, rfl⟩
  have hitems : (Lost.signs.generatePatches Lost.request .never).items = [] := rfl
  -- no item of the answer is for the object, so that nothing is replayed
  have hpatch : patch = [] := by
    by_contra hne
    simp [GeneratePatches.Carries, hitems, if_neg hne] at hcarries
  subst hpatch
  obtain rfl : _ = last := Except.ok.inj happly
  obtain rfl : Lost.template = t := eq_of_heq (TemplateObject.mk.inj (Except.ok.inj ht)).2
  obtain rfl : _ = u := eq_of_heq (TemplateObject.mk.inj (Except.ok.inj hu)).2
  obtain rfl : Lost.mark (Lost.template.own (Lost.zero true)) = t' := Except.ok.inj ht'
  exact absurd hsame (by decide +kernel)

/-- A change that sets null is lost: null is written at its place, but never read there. -/
theorem not_replays_of_nulls : ¬ Replays fun before after =>
    before.Steady after ∧ before.KeepsSigns after := by
  intro hall
  obtain ⟨patch, last, -, -, hlast, hread⟩ :=
    hall Lost.nulls Lost.of_mem_nulls Lost.request .never (by decide) Lost.ordered_object rfl
      Lost.item (List.mem_singleton_self _)
  obtain ⟨t, t', u, ht, ht', hu, hsame⟩ := hread _ List.mem_cons_self ⟨_, rfl⟩
  obtain rfl : Lost.template = t := eq_of_heq (TemplateObject.mk.inj (Except.ok.inj ht)).2
  obtain rfl : Lost.template.own .null = t' := Except.ok.inj ht'
  have hnull : u.metadata.fieldsAt 0 = some .null :=
    Json.eq_some_null_of_rel_same (Template.rel_fieldsAt_of_same hsame 0)
  obtain ⟨-, -, hread⟩ := ObjectRegistry.decode_eq_ok_iff.1 hu
  exact Template.fieldsAt_ne_null ⟨hlast, hread⟩ 0 hnull

/-- Changes that only leave versions, kinds and points in time alone do not lead to what they make,
and neither of the two conditions on owned fields is enough. -/
theorem not_replays_of_steady : ¬ Replays Template.Steady ∧
    (¬ Replays fun before after => before.Steady after ∧ before.SetsNoNull after) ∧
    ¬ Replays fun before after => before.Steady after ∧ before.KeepsSigns after :=
  ⟨fun h => not_replays_of_signs (h.mono And.left), not_replays_of_signs, not_replays_of_nulls⟩

end Handler

end TopologyHooks
