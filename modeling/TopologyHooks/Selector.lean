import TopologyHooks.Message.Reference
import TopologyHooks.Variable.Builtin
import TopologyHooks.Variable.Store

/-!
# Which templates a patch applies to

* `HolderReference.isInfrastructureCluster` and its two siblings — the three places in which a
  template can stand, told by the kind of the object that refers to it and by the field.
* `PatchSelector.classMatches` — patterns for the classes of groups of workers.
* `PatchSelector.selects` — whether a selector applies to an object: version and kind are the
  selector's, and the object stands in one of the places that the selector names.
-/

set_option autoImplicit false

namespace TopologyHooks

namespace HolderReference

/-- The template of the infrastructure of a cluster. -/
def isInfrastructureCluster (h : HolderReference) : Bool :=
  h.kind == "Cluster" && h.fieldPath == "spec.infrastructureRef"

/-- The template of a control plane, or that of its machines. -/
def isControlPlane (h : HolderReference) : Bool :=
  (h.kind == "Cluster" && h.fieldPath == "spec.controlPlaneRef")
    || h.fieldPath == "spec.machineTemplate.infrastructureRef"

/-- A template of the machines of a group of workers, or of their set-up. -/
def isMachineDeployment (h : HolderReference) : Bool :=
  h.kind == "MachineDeployment"
    && (h.fieldPath == "spec.template.spec.infrastructureRef"
      || h.fieldPath == "spec.template.spec.bootstrap.configRef")

end HolderReference

namespace PatchSelector

/-- Whether a pattern matches the name of a class. A single star at either end of a pattern stands
for any text; with a star elsewhere, or with several, a pattern matches nothing. -/
def classMatches (pattern cls : String) : Bool :=
  let chars := pattern.toList
  match chars.count '*' with
  | 0 => pattern == cls
  | 1 =>
    match chars with
    | '*' :: ending => ending.isSuffixOf cls.toList
    | _ => chars.getLast? == some '*' && chars.dropLast.isPrefixOf cls.toList
  | _ => false

/-- The class of the group of workers that a template belongs to; a class that cannot be read is
none. -/
def classOf? (vars : Variables) : Option String :=
  match vars.get .text Builtins.variableName Builtins.deploymentClass with
  | .ok cls => cls
  | .error _ => none

/-- Whether a selector names the group of workers that a template belongs to. -/
def selectsClass (s : PatchSelector) (vars : Variables) : Bool :=
  match s.matchResources.machineDeploymentClass, classOf? vars with
  | some patterns, some cls => patterns.names.any fun p => classMatches p cls
  | _, _ => false

/-- Whether an object has the version and kind of a selector. -/
def selectsKind (s : PatchSelector) (object : Json) : Bool :=
  object.member? "apiVersion" == some (.str s.apiVersion)
    && object.member? "kind" == some (.str s.kind)

/-- Whether a selector applies to an object with a holder. -/
def selects (s : PatchSelector) (object : Json) (holder : HolderReference) (vars : Variables) :
    Bool :=
  s.selectsKind object
    && ((s.matchResources.infrastructureCluster && holder.isInfrastructureCluster)
      || (s.matchResources.controlPlane && holder.isControlPlane)
      || (holder.isMachineDeployment && s.selectsClass vars))

/-- The templates of a kind for the infrastructure of a cluster. -/
def infrastructureCluster (k : TemplateKind) : PatchSelector :=
  ⟨k.apiVersion, k.name, { Places.nowhere with infrastructureCluster := true }⟩

/-- The templates of a kind for a control plane. -/
def controlPlane (k : TemplateKind) : PatchSelector :=
  ⟨k.apiVersion, k.name, { Places.nowhere with controlPlane := true }⟩

/-- The templates of a kind for all groups of workers. -/
def allWorkers (k : TemplateKind) : PatchSelector :=
  ⟨k.apiVersion, k.name, { Places.nowhere with machineDeploymentClass := some ⟨["*"]⟩ }⟩

end PatchSelector

end TopologyHooks
