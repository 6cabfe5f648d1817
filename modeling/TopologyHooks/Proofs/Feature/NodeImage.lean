import Mathlib.Data.List.ReduceOption
import TopologyHooks.Feature.Docker
import TopologyHooks.Proofs.Feature.Outcome
import TopologyHooks.Proofs.Template.Difference
import TopologyHooks.Proofs.Variable.Builtin

/-!
# Which image a machine on Docker gets

* `Feature.NodeImage.firstVersion_eq_error_iff`, `Feature.NodeImage.firstVersion_eq_ok` — what comes
  of looking for a version.
* `Feature.NodeImage.firstVersion_of_written` — what callers write never gets the search stuck.
* `Feature.generate_nodeImage` — what the mutators of images do to a machine. The versions are read
  first, even if an image is configured: one that cannot be read makes the mutator fail although it
  does not need a version (`Feature.not_configured_image_wins`). Apart from that the configured
  image counts, and without one the standard image for the first version that is told.
-/

set_option autoImplicit false

namespace TopologyHooks

open Patch

namespace Feature

namespace NodeImage

/-! ## Looking for a version -/

variable {vars : Variables} {versions : List (List String)}

/-- The version at a path, if the cluster tells one that is not empty. -/
def versionAt? (vars : Variables) (path : List String) : Option String :=
  match vars.get .text Builtins.variableName path with
  | .ok (some version) => if version = "" then none else some version
  | _ => none

/-- Whether the search for a version comes to a path at which it fails with an error: at all paths
before it there is no version, or an empty one. -/
def Stuck (vars : Variables) (versions : List (List String)) (e : Error) : Prop :=
  ∃ before path after, versions = before ++ path :: after ∧
    (∀ q ∈ before, vars.get .text Builtins.variableName q = .ok none ∨
      vars.get .text Builtins.variableName q = .ok (some "")) ∧
    vars.get .text Builtins.variableName path = .error e

/-- The search fails at the first path, or finds no version there and fails at a later one. -/
theorem stuck_cons_iff {path : List String} {e : Error} :
    Stuck vars (path :: versions) e ↔
      vars.get .text Builtins.variableName path = .error e ∨
        (vars.get .text Builtins.variableName path = .ok none ∨
          vars.get .text Builtins.variableName path = .ok (some "")) ∧ Stuck vars versions e := by
  constructor
  · rintro ⟨_ | ⟨first, before⟩, stop, after, heq, hbefore, he⟩
    · obtain ⟨rfl, rfl⟩ := List.cons.inj heq
      exact .inl he
    · obtain ⟨rfl, rfl⟩ := List.cons.inj heq
      obtain ⟨hfirst, hbefore⟩ := List.forall_mem_cons.1 hbefore
      exact .inr ⟨hfirst, before, stop, after, rfl, hbefore, he⟩
  · rintro (he | ⟨hfirst, before, stop, after, rfl, hbefore, he⟩)
    · exact ⟨[], path, versions, rfl, by simp, he⟩
    · exact ⟨path :: before, stop, after, rfl, List.forall_mem_cons.2 ⟨hfirst, hbefore⟩, he⟩

/-- Looking for the first version fails exactly where the search gets stuck. -/
theorem firstVersion_eq_error_iff {e : Error} : ∀ {versions : List (List String)},
    firstVersion vars versions = .error e ↔ Stuck vars versions e
  | [] => by simp [firstVersion, Stuck]
  | path :: rest => by
    rw [stuck_cons_iff, ← firstVersion_eq_error_iff, firstVersion]
    rcases vars.get .text Builtins.variableName path with e' | _ | version
    · simp
    · simp
    · by_cases h : version = "" <;> simp [h]

/-- If a version can be read at every path, or is missing there, the first one that is not empty is
found. -/
theorem firstVersion_eq_ok : ∀ {versions : List (List String)},
    (∀ path ∈ versions, ∃ found, vars.get .text Builtins.variableName path = .ok found) →
    firstVersion vars versions = .ok (versions.findSome? (versionAt? vars))
  | [], _ => rfl
  | path :: rest, h => by
    obtain ⟨⟨found, hfound⟩, hrest⟩ := List.forall_mem_cons.1 h
    rw [firstVersion, hfound, List.findSome?_cons, versionAt?, hfound]
    rcases found with _ | version
    · exact firstVersion_eq_ok hrest
    · by_cases hv : version = ""
      · simpa [hv] using firstVersion_eq_ok hrest
      · simp [hv]

/-- If it is known what can be read at every path, the first version is the first of these texts
that is not empty. -/
theorem firstVersion_eq_find? {found : List (Option String)}
    (h : List.Forall₂ (fun path o => vars.get .text Builtins.variableName path = .ok o)
      versions found) :
    firstVersion vars versions = .ok (found.reduceOption.find? (· ≠ "")) := by
  induction h with
  | nil => rfl
  | @cons path o rest found hread _ ih =>
    rw [firstVersion, hread]
    rcases o with _ | version
    · rw [List.reduceOption_cons_of_none]
      exact ih
    · rw [List.reduceOption_cons_of_some, List.find?_cons]
      by_cases hv : version = ""
      · simpa [hv] using ih
      · simp [hv]

end NodeImage

end Feature

/-! ## Setting the image -/

namespace Docker.MachineSpec

variable {s : MachineSpec}

/-- The same machine with an image. -/
def withImage (s : MachineSpec) (image : String) : MachineSpec :=
  { s with customImage := some image }

/-- A machine with another image is written in order if it was before. -/
theorem ordered_withImage (h : (shape.toJson s).Ordered) (image : String) :
    (shape.toJson (s.withImage image)).Ordered := by
  refine Shape.ordered_record_of_set (i := 0) regular_shape.2.2.2.nodup_keys h rfl fun x hx => ?_
  have himage : (Presence.omitted none Option.isNone).written Shape.text.nullable (some image) =
      some x := hx
  rw [Presence.written_optional, Option.map_some, Shape.toJson_text, Option.some.injEq] at himage
  exact himage ▸ trivial

/-- The steps between two machines with different images are about the member for the image
alone. -/
theorem diff_withImage (h : (shape.toJson s).Ordered) (image : String) :
    diff (shape.toJson s) (shape.toJson (s.withImage image)) =
      memberDiff "customImage" (s.customImage.map .str) (some (.str image)) := by
  have htext : Shape.text.toJson = .str := funext Shape.toJson_text
  rw [← htext]
  exact Shape.diff_record_of_optional (i := 0) regular_shape.2.2.2.nodup_keys h
    (ordered_withImage h image) rfl rfl rfl

/-- The steps that set an image set it in every object that the machine is read from. -/
theorem memberReplay_image {members : List (String × Json)} (h : shape.Reads (.obj members) s)
    (image : String) :
    MemberReplay (s.customImage.map .str) (some (.str image)) (Assoc.get? "customImage" members)
      (some (.str image)) := by
  obtain ⟨-, ⟨found, images, _⟩, ⟨hfound, -⟩, rfl⟩ := Shape.reads_record_obj_iff.1 h
  change Presence.Reads _ _ (Assoc.get? "customImage" members) found at hfound
  cases found with
  | none => rfl
  | some old =>
    cases hget : Assoc.get? "customImage" members with
    | none =>
      rw [hget] at hfound
      cases hfound
    | some raw =>
      rw [hget] at hfound
      obtain ⟨-, hnone⟩ | ⟨-, _, hraw, ⟨⟩⟩ := Shape.reads_nullable_iff.1 hfound
      · cases hnone
      · obtain rfl := Shape.reads_text_iff.1 hraw
        refine ⟨_, rfl, ?_⟩
        by_cases he : old = image
        · simp [he, diff, diffAt, Json.same]
        · simpa [he, diff, diffAt, Json.same] using run?_replace_root _ _

/-- The steps that set an image of a machine can be run on every object that the machine is read
from, if the machine is described by an object there; then the image stands in its place. -/
theorem exists_run?_withImage {raw : Json} {members : List (String × Json)}
    {t : TemplateKind.dockerMachine.Object} (h : TemplateKind.dockerMachine.shape.Reads raw t)
    (hspec : raw.at? ["spec", "template", "spec"] = some (.obj members)) (image : String) :
    ∃ next, run? (diff (TemplateKind.dockerMachine.shape.toJson t)
        (TemplateKind.dockerMachine.shape.toJson { t with spec := t.spec.withImage image })) raw =
          some next ∧
      next.at? ["spec", "template", "spec", "customImage"] = some (.str image) := by
  have hordered := Shape.ordered_toJson _ (TemplateKind.regular_shape _) h
  have hinner := TemplateKind.reads_spec h hspec
  have hsorted := (Json.ordered_obj.1 hinner.ordered).1
  have hs := TemplateKind.ordered_spec hordered
  have hdiff := diff_withImage hs image
  have hrun := (run?_memberDiff hsorted).2 ⟨_, memberReplay_image hinner image, rfl⟩
  rw [← hdiff] at hrun
  obtain ⟨next, hnext, hat⟩ := exists_run?_map_shift (fun _ => plain_of_mem_diff) hspec hrun
  rw [TemplateKind.diff_withSpec hordered
    (TemplateKind.ordered_withSpec hordered (ordered_withImage hs image))]
  refine ⟨next, hnext, ?_⟩
  have happend := next.at?_append ["spec", "template", "spec"] ["customImage"]
  rw [hat, Option.bind_some] at happend
  refine happend.trans ?_
  simp [Json.at?, Json.child?, Assoc.update, Assoc.get?_insert]

end Docker.MachineSpec

/-! ## The mutators -/

namespace Feature

/-- The mutator of the images of workers, or of the machines of a control plane. -/
def nodeImage : (workers : Bool) → Mutator
  | false => dockerImages.head (List.cons_ne_nil _ _)
  | true => dockerImages.getLast (List.cons_ne_nil _ _)

/-- The variable that configures these images. -/
def nodeImageVariable : (workers : Bool) → VariableRef
  | false => ⟨"clusterConfig", ["controlPlane", "docker", "customImage"]⟩
  | true => ⟨"workerConfig", ["docker", "customImage"]⟩

/-- Where the version for a standard image is looked for. -/
def nodeImageVersions : (workers : Bool) → List (List String)
  | false => [["controlPlane", "version"], ["cluster", "topology", "version"]]
  | true => [["machineDeployment", "version"]]

/-- What a cluster tells about itself where the version for a standard image is looked for. -/
def toldVersions (b : Builtins) : (workers : Bool) → List (Option String)
  | false => [b.controlPlane.map (·.version), (b.cluster.bind (·.topology)).map (·.version)]
  | true => [b.machineDeployment.map (·.version)]

/-- Where the variable of the cluster holds what is written for a record, the search for a version
does not fail, and finds the first one in the record that is not empty. -/
theorem NodeImage.firstVersion_of_written {vars : Variables} {b : Builtins}
    (h : vars.get? Builtins.variableName = some (Builtins.shape.toJson b)) (workers : Bool) :
    firstVersion vars (nodeImageVersions workers) =
      .ok ((toldVersions b workers).reduceOption.find? (· ≠ "")) := by
  obtain ⟨-, hdeployment, hplane, htopology⟩ := Builtins.get_of_written h
  apply firstVersion_eq_find?
  cases workers with
  | false => exact .cons hplane (.cons htopology .nil)
  | true => exact .cons hdeployment .nil

/-- Whether a mutator sets the image of a machine, and changes nothing else of it. -/
def SetsImage (m : Mutator) (registry : ObjectRegistry) (item : GeneratePatches.RequestItem)
    (vars : Variables) (l : Ledger) (t : TemplateKind.dockerMachine.Object) (image : String) :
    Prop :=
  ∃ l', m.generate registry item vars l = (l', none) ∧
    (l'.current item.uid item.object).at? ["spec", "template", "spec", "customImage"] =
      some (.str image) ∧
    registry.decode (l'.current item.uid item.object) =
      .ok ⟨.dockerMachine, { t with spec := t.spec.withImage image }⟩

/-- Both mutators of images are made in the same way, from their own variable and paths. -/
theorem exists_nodeImage_eq (workers : Bool) : ∃ name selector, nodeImage workers =
    NodeImage.mutator name (nodeImageVariable workers) selector (nodeImageVersions workers) := by
  cases workers
  case false => exact ⟨"docker-custom-image-control-plane", .controlPlane, rfl⟩
  case true => exact ⟨"docker-custom-image-workers", .allWorkers, rfl⟩

namespace NodeImage

variable {registry : ObjectRegistry} {item : GeneratePatches.RequestItem} {vars : Variables}
  {l : Ledger} {t : TemplateKind.dockerMachine.Object} {members : List (String × Json)}
  {name : String} {source : VariableRef} {selector : TemplateKind → PatchSelector}
  {versions : List (List String)} {found : Option String}

/-- A mutator of images has a value for each object that it selects; a missing setting counts as an
empty one. -/
theorem valueFor?_mutator (hread : source.get .text vars = .ok found)
    (hs : (selector .dockerMachine).selects (l.current item.uid item.object) item.holderReference
      vars = true) :
    (mutator name source selector versions).valueFor? vars item.holderReference
      (l.current item.uid item.object) = some (found.getD "") :=
  Mutator.valueFor?_eq_some_iff.2 ⟨found, hread, by cases found <;> rfl, hs⟩

/-- Where the search for a version gets stuck, the mutator fails with its error and changes
nothing. -/
theorem generate_of_stuck {e : Error} (hread : source.get .text vars = .ok found)
    (hs : (selector .dockerMachine).selects (l.current item.uid item.object) item.holderReference
      vars = true)
    (hd : registry.decode (l.current item.uid item.object) = .ok ⟨.dockerMachine, t⟩)
    (he : Stuck vars versions e) :
    (mutator name source selector versions).generate registry item vars l = (l, some e) := by
  have hchange : onSpec (configure versions vars (found.getD "")) t = .error e := by
    rw [onSpec, configure, firstVersion_eq_error_iff.2 he, Except.map]
  exact Mutator.generate_of_change_error (valueFor?_mutator hread hs)
    (ObjectRegistry.decodeAs_eq_ok_iff.2 hd) hchange

/-- What a mutator of images does once the version is known. -/
theorem generate_of_firstVersion (name : String) {version : Option String}
    (hread : source.get .text vars = .ok found)
    (hs : (selector .dockerMachine).selects (l.current item.uid item.object) item.holderReference
      vars = true)
    (ho : (l.current item.uid item.object).Ordered)
    (hd : registry.decode (l.current item.uid item.object) = .ok ⟨.dockerMachine, t⟩)
    (hspec : (l.current item.uid item.object).at? ["spec", "template", "spec"] =
      some (.obj members))
    (hversion : firstVersion vars versions = .ok version) :
    match choose? (found.getD "") version with
    | none => (mutator name source selector versions).generate registry item vars l = (l, none)
    | some image =>
      SetsImage (mutator name source selector versions) registry item vars l t image := by
  have hvalue : (mutator name source selector versions).valueFor? vars item.holderReference
      (l.current item.uid item.object) = some (found.getD "") := valueFor?_mutator hread hs
  have hdecode := ObjectRegistry.decodeAs_eq_ok_iff.2 hd
  have hreads : TemplateKind.dockerMachine.shape.Reads (l.current item.uid item.object) t :=
    ⟨ho, (ObjectRegistry.decode_eq_ok_iff.1 hd).2.2⟩
  cases hchoose : choose? (found.getD "") version with
  | none =>
    -- neither an image nor a version: the machine is left as it is
    have hchange : onSpec (configure versions vars (found.getD "")) t = .ok t := by
      rw [onSpec, configure, hversion]
      simp only [hchoose]
      rfl
    have hordered := Shape.ordered_toJson _ (TemplateKind.regular_shape _) hreads
    exact (Mutator.generate_eq_mutate hvalue).trans
      (Ledger.mutate_eq_self hdecode hchange (diff_self hordered))
  | some image =>
    have hchange : onSpec (configure versions vars (found.getD "")) t =
        .ok { t with spec := t.spec.withImage image } := by
      rw [onSpec, configure, hversion]
      simp only [hchoose]
      rfl
    obtain ⟨next, hnext, hat⟩ := Docker.MachineSpec.exists_run?_withImage hreads hspec image
    obtain ⟨l', hl', hext⟩ := Mutator.exists_generate_of_run? hvalue hdecode hchange hnext
    obtain ⟨-, hlast⟩ := Mutator.decode_current_of_extends
      (m := mutator name source selector versions) (gentle_onSpec hchange) ho hd hnext hext
    exact ⟨l', hl', by rw [hext.current, hat], hlast⟩

end NodeImage

/-- What the mutators of images do to a machine that is described by an object. If an image is
configured, the mutator fails at a version that cannot be read, unless one before it is set, and
otherwise the machine gets that image. If none is configured and all versions can be read, the
machine gets the standard image for the first one that is not empty, and is left alone if there is
none. -/
theorem generate_nodeImage (workers : Bool) {registry : ObjectRegistry}
    {item : GeneratePatches.RequestItem} {vars : Variables} {l : Ledger}
    {t : TemplateKind.dockerMachine.Object} {members : List (String × Json)}
    (hs : (nodeImage workers).selector.selects (l.current item.uid item.object)
      item.holderReference vars = true)
    (ho : (l.current item.uid item.object).Ordered)
    (hd : registry.decode (l.current item.uid item.object) = .ok ⟨.dockerMachine, t⟩)
    (hspec : (l.current item.uid item.object).at? ["spec", "template", "spec"] =
      some (.obj members)) :
    (∀ image, (nodeImageVariable workers).get .text vars = .ok (some image) → image ≠ "" →
      (∀ e, NodeImage.Stuck vars (nodeImageVersions workers) e →
        (nodeImage workers).generate registry item vars l = (l, some e)) ∧
      ((¬ ∃ e, NodeImage.Stuck vars (nodeImageVersions workers) e) →
        SetsImage (nodeImage workers) registry item vars l t image)) ∧
    ((nodeImageVariable workers).get .text vars = .ok none ∨
        (nodeImageVariable workers).get .text vars = .ok (some "") →
      (∀ path ∈ nodeImageVersions workers, ∃ found, vars.get .text "builtin" path = .ok found) →
      match (nodeImageVersions workers).findSome? (NodeImage.versionAt? vars) with
      | none => (nodeImage workers).generate registry item vars l = (l, none)
      | some version =>
        SetsImage (nodeImage workers) registry item vars l t ("kindest/node:" ++ version)) := by
  obtain ⟨name, selector, heq⟩ := exists_nodeImage_eq workers
  rw [heq] at hs ⊢
  constructor
  · intro image hread hne
    refine ⟨fun e he => NodeImage.generate_of_stuck hread hs hd he, fun hfree => ?_⟩
    -- the search has to succeed, but what it finds makes no difference
    cases hversion : NodeImage.firstVersion vars (nodeImageVersions workers) with
    | error e => exact absurd ⟨e, NodeImage.firstVersion_eq_error_iff.1 hversion⟩ hfree
    | ok version =>
      have hsets := NodeImage.generate_of_firstVersion name hread hs ho hd hspec hversion
      have hchoose : NodeImage.choose? image version = some image := by
        simp [NodeImage.choose?, hne]
      rw [Option.getD_some, hchoose] at hsets
      exact hsets
  · intro hunset hreadable
    have hversion := NodeImage.firstVersion_eq_ok hreadable
    have hfound : ∃ found, (nodeImageVariable workers).get .text vars = .ok found ∧
        found.getD "" = "" := by
      rcases hunset with hread | hread
      · exact ⟨none, hread, rfl⟩
      · exact ⟨some "", hread, rfl⟩
    obtain ⟨found, hread, hempty⟩ := hfound
    have hsets := NodeImage.generate_of_firstVersion name hread hs ho hd hspec hversion
    rw [hempty] at hsets
    cases hfirst : (nodeImageVersions workers).findSome? (NodeImage.versionAt? vars) with
    | none => rwa [hfirst] at hsets
    | some version => rwa [hfirst] at hsets

namespace Machines

/-- A template of the machines of a control plane that says nothing. -/
def item : GeneratePatches.RequestItem where
  uid := "uid"
  holderReference := ⟨"controlplane.cluster.x-k8s.io/v1beta1", "KubeadmControlPlane", "", "test",
    "spec.machineTemplate.infrastructureRef"⟩
  object := .obj [("apiVersion", .str "infrastructure.cluster.x-k8s.io/v1beta1"),
    ("kind", .str "DockerMachineTemplate"),
    ("spec", .obj [("template", .obj [("spec", .obj [])])])]
  bindings := []

/-- An image for the control plane, and what the cluster tells as the version of it. -/
def vars (version : Json) : Variables := .ofList
  [⟨"builtin", .obj [("controlPlane", .obj [("version", version)])], none⟩,
   ⟨"clusterConfig", .obj [("controlPlane", .obj [("docker", .obj
      [("customImage", .str "registry.test/node:v1")])])], none⟩]

/-- What the template is read as. -/
def template : TemplateKind.dockerMachine.Object where
  apiVersion := "infrastructure.cluster.x-k8s.io/v1beta1"
  kind := "DockerMachineTemplate"
  metadata := .blank
  spec := .blank

/-- The mutator for the control plane selects the item, whatever version the cluster tells. -/
theorem selects (version : Json) : (nodeImage false).selector.selects
    (Ledger.empty.current item.uid item.object) item.holderReference (vars version) = true := rfl

/-- The object of the item is in order. -/
theorem ordered_current : (Ledger.empty.current item.uid item.object).Ordered := by
  decide +kernel

/-- The object of the item is read as the template. -/
theorem decode_current : ObjectRegistry.full.decode (Ledger.empty.current item.uid item.object) =
    .ok ⟨.dockerMachine, template⟩ := rfl

/-- The machine of the template has no settings yet. -/
theorem at?_current :
    (Ledger.empty.current item.uid item.object).at? ["spec", "template", "spec"] =
      some (.obj []) := rfl

end Machines

/-- The configured image is set next to a version of the control plane. -/
theorem generate_nodeImage_configured :
    SetsImage (nodeImage false) .full Machines.item (Machines.vars (.str "v1.30.0")) .empty
      Machines.template "registry.test/node:v1" := by
  obtain ⟨hconfigured, -⟩ := generate_nodeImage false (Machines.selects (.str "v1.30.0"))
    Machines.ordered_current Machines.decode_current Machines.at?_current
  have hread : (nodeImageVariable false).get .text (Machines.vars (.str "v1.30.0")) =
      .ok (some "registry.test/node:v1") := rfl
  refine (hconfigured _ hread (by decide)).2 ?_
  rintro ⟨e, he⟩
  cases NodeImage.firstVersion_eq_error_iff.2 he

/-- A configured image does not win over every version: one that is not a text makes the mutator
fail. -/
theorem not_configured_image_wins : ¬ ∀ (workers : Bool) (registry : ObjectRegistry)
    (item : GeneratePatches.RequestItem) (vars : Variables) (l : Ledger)
    (t : TemplateKind.dockerMachine.Object) (members : List (String × Json)) (image : String),
    (nodeImage workers).selector.selects (l.current item.uid item.object) item.holderReference
      vars = true →
    (l.current item.uid item.object).Ordered →
    registry.decode (l.current item.uid item.object) = .ok ⟨.dockerMachine, t⟩ →
    (l.current item.uid item.object).at? ["spec", "template", "spec"] = some (.obj members) →
    (nodeImageVariable workers).get .text vars = .ok (some image) → image ≠ "" →
    SetsImage (nodeImage workers) registry item vars l t image := by
  intro h
  have hread : (nodeImageVariable false).get .text (Machines.vars (Json.ofInt 5)) =
      .ok (some "registry.test/node:v1") := rfl
  obtain ⟨l', hl', -⟩ := h false .full Machines.item (Machines.vars (Json.ofInt 5)) .empty _ _ _
    (Machines.selects _) Machines.ordered_current Machines.decode_current Machines.at?_current
    hread (by decide)
  have hfails : ((nodeImage false).generate .full Machines.item (Machines.vars (Json.ofInt 5))
      .empty).2.isSome = true := by decide +kernel
  rw [hl'] at hfails
  cases hfails

end Feature

end TopologyHooks
