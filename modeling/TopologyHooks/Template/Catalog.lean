import TopologyHooks.Error
import TopologyHooks.Template.Infrastructure
import TopologyHooks.Template.Kind
import TopologyHooks.Template.Kubeadm
import TopologyHooks.Text.Quoted

/-!
# Templates by kind

* `TemplateKind.Spec`, `TemplateKind.Object`, `TemplateKind.shape` — the type of the templates of
  a kind and how they are written.
* `ObjectRegistry` — the kinds that are known to some handler; `ObjectRegistry.decode` reads an
  object as the kind that it says it is, and `ObjectRegistry.decodeAs` insists on one kind.
-/

set_option autoImplicit false

namespace TopologyHooks

namespace TemplateKind

/-- What a template of a kind specifies. -/
abbrev Spec : TemplateKind → Type
  | kubeadmControlPlane => KubeadmConfigSpec
  | kubeadmConfig => KubeadmConfigSpec
  | dockerMachine => Docker.MachineSpec
  | dockerCluster => Docker.ClusterSpec
  | awsMachine => Aws.MachineSpec
  | awsCluster => Aws.ClusterSpec

/-- The templates of a kind. -/
abbrev Object (k : TemplateKind) : Type := Template k.Spec

/-- The name of a kind in messages about fields. -/
def title : TemplateKind → String
  | kubeadmControlPlane => "KubeadmControlPlaneTemplate"
  | kubeadmConfig => "KubeadmConfigTemplate"
  | dockerMachine => "DockerMachineTemplate"
  | dockerCluster => "DockerClusterTemplate"
  | awsMachine => "AwsMachineTemplate"
  | awsCluster => "AwsClusterTemplate"

/-- A specification that says nothing. -/
def blankSpec : (k : TemplateKind) → k.Spec
  | kubeadmControlPlane => KubeadmConfigSpec.blank
  | kubeadmConfig => KubeadmConfigSpec.blank
  | dockerMachine => Docker.MachineSpec.blank
  | dockerCluster => Docker.ClusterSpec.blank
  | awsMachine => Aws.MachineSpec.blank
  | awsCluster => Aws.ClusterSpec.blank

/-- How the specification of a kind is written. -/
def innerShape : (k : TemplateKind) → Shape k.Spec
  | kubeadmControlPlane => KubeadmConfigSpec.controlPlaneShape
  | kubeadmConfig => KubeadmConfigSpec.shape
  | dockerMachine => Docker.MachineSpec.shape
  | dockerCluster => Docker.ClusterSpec.shape
  | awsMachine => Aws.MachineSpec.shape
  | awsCluster => Aws.ClusterSpec.shape

/-- How the templates of a kind are written. -/
def shape (k : TemplateKind) : Shape k.Object := Template.shape k.title k.blankSpec k.innerShape

/-- Reads an object as a template of a kind. -/
def decode (k : TemplateKind) (raw : Json) : Except Error k.Object :=
  (k.shape.ofJson raw).mapError fun f => .decode k.name (.fault f)

end TemplateKind

/-- A template together with its kind. -/
structure TemplateObject where
  kind : TemplateKind
  object : kind.Object

/-- How a template is written. -/
def TemplateObject.toJson (o : TemplateObject) : Json := o.kind.shape.toJson o.object

/-! ## Registries -/

/-- The kinds that are known, each once. -/
structure ObjectRegistry where
  kinds : List TemplateKind
  nodup : kinds.Nodup

namespace ObjectRegistry

/-- Each kind of a list once. -/
def distinct : List TemplateKind → List TemplateKind
  | [] => []
  | k :: rest => if k ∈ distinct rest then distinct rest else k :: distinct rest

/-- No kind is left twice. -/
theorem nodup_distinct : ∀ kinds : List TemplateKind, (distinct kinds).Nodup
  | [] => List.nodup_nil
  | k :: rest => by
    by_cases h : k ∈ distinct rest
    · rw [distinct, if_pos h]
      exact nodup_distinct rest
    · rw [distinct, if_neg h]
      exact List.nodup_cons.2 ⟨h, nodup_distinct rest⟩

/-- The registry of some kinds. -/
def ofList (kinds : List TemplateKind) : ObjectRegistry := ⟨distinct kinds, nodup_distinct kinds⟩

/-- The registry of all kinds. -/
def full : ObjectRegistry := ofList TemplateKind.all

/-- The kind with a version and a name. -/
def lookup (r : ObjectRegistry) (apiVersion name : String) : Option TemplateKind :=
  TemplateKind.find? r.kinds apiVersion name

/-- Whether a kind is known. -/
def contains (r : ObjectRegistry) (k : TemplateKind) : Bool :=
  r.lookup k.apiVersion k.name == some k

/-- The text under a key of an object, or the empty text. -/
def textAt (key : String) (raw : Json) : String := ((raw.member? key).bind Json.string?).getD ""

/-- Reads an object as the kind that it says it is. -/
def decode (r : ObjectRegistry) (raw : Json) : Except Error TemplateObject :=
  let apiVersion := textAt "apiVersion" raw
  let name := textAt "kind" raw
  match r.lookup apiVersion name with
  | none => .error (.unregisteredKind apiVersion name)
  | some k =>
    match k.decode raw with
    | .ok object => .ok ⟨k, object⟩
    | .error e => .error e

/-- Reads an object that must be of a kind. -/
def decodeAs (r : ObjectRegistry) (k : TemplateKind) (raw : Json) : Except Error k.Object :=
  match r.decode raw with
  | .error e => .error e
  | .ok o =>
    if h : o.kind = k then .ok (h ▸ o.object)
    else .error (.decode k.name (.otherKind o.kind k))

/-- The text that shows which kinds are known. -/
def text (r : ObjectRegistry) : String :=
  let names := (r.kinds.map TemplateKind.text).mergeSort fun a b => decide (a ≤ b)
  "ObjectRegistry \x7b kinds: " ++ Text.quotedList names ++ " \x7d"

end ObjectRegistry

end TopologyHooks
