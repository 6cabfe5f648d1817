import TopologyHooks.Proofs.Shape.ReadBack
import TopologyHooks.Proofs.Variable.Update
import TopologyHooks.Selector
import TopologyHooks.Variable.Builtin

/-!
# What mutators find in the variable of the cluster

Callers write a record, and mutators look up paths.

* `Builtins.get_of_written` — at the four paths stand the fields of the record that was written.
* `Builtins.classOf?_of_written` — the class of a group of workers is the one in the record.
-/

set_option autoImplicit false

namespace TopologyHooks

open Variables (descend descend_members valueAt_eq)

/-- A path into a record goes on with what is written for the field of its first key. -/
theorem Shape.descend_record {α β : Type} {form : Form} {fields : Fields β} {into : β → α}
    {outOf : α → β} (hnodup : fields.keys.Nodup) {a : α} {i : Nat} {key : String}
    (hkey : fields.keys[i]? = some key) {slot : Option Json}
    (hslot : (fields.written (outOf a))[i]? = some slot) (here path : List String) :
    descend here ((Shape.record form fields into outOf).toJson a) (key :: path) =
      slot.elim (.ok none) fun child => descend (here ++ [key]) child path := by
  have hget : slot = Assoc.get? key (fields.sorted (outOf a)) :=
    Option.some.inj (hslot.symm.trans (Fields.getElem?_written hnodup (outOf a) hkey))
  rw [Shape.toJson_record, descend_members, hget]

namespace Builtins

variable {vars : Variables} {b : Builtins}

/-- A path into an optional record goes on in the record, if there is one. -/
theorem elim_written {α : Type} {s : Shape α} (o : Option α) (here path : List String) :
    (((Presence.omitted none Option.isNone).written s.nullable o).elim (.ok none) fun child =>
        descend here child path) =
      (o.elim (.ok none) fun a => descend here (s.toJson a) path : Except _ (Option Json)) := by
  cases o with
  | none => rfl
  | some a => rfl

/-- The class and the version of a group of workers stand where they are looked for. -/
theorem descend_machineDeployment (here : List String) (d : MachineDeployment) :
    descend here (MachineDeployment.shape.toJson d) ["class"] = .ok (some (.str d.cls)) ∧
      descend here (MachineDeployment.shape.toJson d) ["version"] = .ok (some (.str d.version)) :=
  ⟨(Shape.descend_record (i := 1) (by decide) rfl rfl here []).trans rfl,
    (Shape.descend_record (i := 0) (by decide) rfl rfl here []).trans rfl⟩

/-- The version of a control plane stands where it is looked for. -/
theorem descend_controlPlane (here : List String) (c : ControlPlane) :
    descend here (ControlPlane.shape.toJson c) ["version"] = .ok (some (.str c.version)) :=
  (Shape.descend_record (i := 0) (by decide) rfl rfl here []).trans rfl

/-- The version of a topology stands where it is looked for, in a cluster that has one. -/
theorem descend_cluster (here : List String) (c : Cluster) :
    descend here (Cluster.shape.toJson c) ["topology", "version"] =
      .ok (c.topology.map fun t => .str t.version) := by
  rw [Cluster.shape, Shape.struct,
    Shape.descend_record (i := 2) (by decide) rfl rfl here ["version"], elim_written]
  cases c.topology with
  | none => rfl
  | some t => exact (Shape.descend_record (i := 0) (by decide) rfl rfl _ []).trans rfl

/-- A text that stands at a path inside a variable, or is missing there, is what is read. -/
theorem get_text {name : String} {root : Json} (hroot : vars.get? name = some root)
    {path : List String} {o : Option String}
    (h : descend [] root path = .ok (o.map .str)) : vars.get .text name path = .ok o := by
  rw [Variables.get, valueAt_eq, hroot, Option.elim, h]
  cases o with
  | none => rfl
  | some t => rfl

/-- Where the variable of the cluster holds what is written for a record, the paths that mutators
look at lead to its fields, and to nothing where the record has none. -/
theorem get_of_written (h : vars.get? variableName = some (shape.toJson b)) :
    vars.get .text variableName deploymentClass = .ok (b.machineDeployment.map (·.cls)) ∧
    vars.get .text variableName deploymentVersion = .ok (b.machineDeployment.map (·.version)) ∧
    vars.get .text variableName controlPlaneVersion = .ok (b.controlPlane.map (·.version)) ∧
    vars.get .text variableName topologyVersion =
      .ok ((b.cluster.bind (·.topology)).map (·.version)) := by
  have hdeployment (path : List String) :
      descend [] (shape.toJson b) ("machineDeployment" :: path) =
        b.machineDeployment.elim (.ok none) fun d =>
          descend ["machineDeployment"] (MachineDeployment.shape.toJson d) path :=
    (Shape.descend_record (i := 2) (by decide) rfl rfl [] path).trans (elim_written _ _ _)
  have hplane (path : List String) :
      descend [] (shape.toJson b) ("controlPlane" :: path) =
        b.controlPlane.elim (.ok none) fun c =>
          descend ["controlPlane"] (ControlPlane.shape.toJson c) path :=
    (Shape.descend_record (i := 1) (by decide) rfl rfl [] path).trans (elim_written _ _ _)
  have hcluster (path : List String) :
      descend [] (shape.toJson b) ("cluster" :: path) =
        b.cluster.elim (.ok none) fun c => descend ["cluster"] (Cluster.shape.toJson c) path :=
    (Shape.descend_record (i := 0) (by decide) rfl rfl [] path).trans (elim_written _ _ _)
  refine ⟨get_text h ?_, get_text h ?_, get_text h ?_, get_text h ?_⟩
  · rw [deploymentClass, hdeployment]
    cases b.machineDeployment with
    | none => rfl
    | some d => exact (descend_machineDeployment _ d).1
  · rw [deploymentVersion, hdeployment]
    cases b.machineDeployment with
    | none => rfl
    | some d => exact (descend_machineDeployment _ d).2
  · rw [controlPlaneVersion, hplane]
    cases b.controlPlane with
    | none => rfl
    | some c => exact descend_controlPlane _ c
  · rw [topologyVersion, hcluster]
    cases b.cluster with
    | none => rfl
    | some c =>
      refine (descend_cluster _ c).trans ?_
      rw [Option.bind_some, Option.map_map]
      rfl

/-- The class by which selectors tell groups of workers apart is the one in the record. -/
theorem classOf?_of_written (h : vars.get? variableName = some (shape.toJson b)) :
    PatchSelector.classOf? vars = b.machineDeployment.map (·.cls) := by
  rw [PatchSelector.classOf?, (get_of_written h).1]

end Builtins

end TopologyHooks
