import TopologyHooks.Proofs.Shape.Regular
import TopologyHooks.Template.Catalog

/-!
# Templates are regular

Main statement: the shape of every kind of template is regular (`TemplateKind.regular_shape`).
-/

set_option autoImplicit false

namespace TopologyHooks

open Patch

attribute [local simp] Shape.Follows Fields.Follows Shape.Regular Fields.Regular

namespace Patch

instance (token : String) : Decidable (OutsideArrays token) :=
  inferInstanceAs (Decidable (_ ∧ _))

end Patch

/-! ## Shapes and fields of the usual kinds -/

namespace Shape

variable {α : Type}

/-- No text is written as null. -/
@[simp] theorem solid_text : text.Solid := trivial

/-- No truth value is written as null. -/
@[simp] theorem solid_flag : flag.Solid := trivial

/-- JSON may be null, but is kept as it is then. -/
@[simp] theorem solid_json : json.Solid := trivial

/-- No integer is written as null. -/
@[simp] theorem solid_signed64 : signed64.Solid := trivial

/-- No point in time is written as null. -/
@[simp] theorem solid_time : time.Solid := trivial

/-- No list is written as null. -/
@[simp] theorem solid_list (item : Shape α) : item.list.Solid := trivial

/-- No dictionary is written as null. -/
@[simp] theorem solid_dictionary (item : Shape α) : item.dictionary.Solid := trivial

/-- Texts can be changed and patched. -/
@[simp] theorem regular_text : text.Regular := trivial

/-- Truth values can be changed and patched. -/
@[simp] theorem regular_flag : flag.Regular := trivial

/-- JSON that is kept as it is can be changed and patched. -/
@[simp] theorem regular_json : json.Regular := trivial

/-- Integers of 64 bits with a sign can be changed and patched; JSON has room for all of them. -/
@[simp] theorem regular_signed64 : signed64.Regular := by simp [signed64]

/-- Points in time can be changed and patched. -/
@[simp] theorem regular_time : time.Regular := trivial

/-- Lists can be changed and patched exactly if their items can. -/
@[simp] theorem regular_list_iff (item : Shape α) : item.list.Regular ↔ item.Regular := Iff.rfl

/-- Dictionaries can be changed and patched exactly if their values can. -/
@[simp] theorem regular_dictionary_iff (item : Shape α) :
    item.dictionary.Regular ↔ item.Regular :=
  Iff.rfl

end Shape

namespace Fields

variable {α β : Type} {key : String} {rest : Fields β}

@[simp] theorem keys_done : Fields.done.keys = [] := rfl

@[simp] theorem keys_required (s : Shape α) : (required key s rest).keys = key :: rest.keys := rfl

@[simp] theorem keys_defaulted (s : Shape α) (value : α) :
    (defaulted key value s rest).keys = key :: rest.keys := rfl

@[simp] theorem keys_optional (s : Shape α) : (optional key s rest).keys = key :: rest.keys := rfl

@[simp] theorem keys_listed (s : Shape (List α)) : (listed key s rest).keys = key :: rest.keys :=
  rfl

@[simp] theorem keys_worded (s : Shape String) : (worded key s rest).keys = key :: rest.keys := rfl

@[simp] theorem keys_keyed (s : Shape (Dictionary α)) :
    (keyed key s rest).keys = key :: rest.keys := rfl

@[simp] theorem regular_done : Fields.done.Regular := trivial

/-- With a required field in front, fields are regular if its key is new and no index, and its shape
is regular. -/
@[simp] theorem regular_required_iff {s : Shape α} :
    (required key s rest).Regular ↔
      OutsideArrays key ∧ key ∉ rest.keys ∧ s.Regular ∧ rest.Regular := by
  simp [required, Presence.Lawful]

/-- With a field that has a default in front, the same holds if the default may come after no
value. -/
@[simp] theorem regular_defaulted_iff {s : Shape α} {value : α} :
    (defaulted key value s rest).Regular ↔
      OutsideArrays key ∧ key ∉ rest.keys ∧ s.Follows none value ∧ s.Regular ∧ rest.Regular := by
  simp [defaulted, Presence.Lawful]

/-- With an optional field in front, the same holds if no value of it is written as null, which
would read as none. -/
@[simp] theorem regular_optional_iff {s : Shape α} :
    (optional key s rest).Regular ↔
      OutsideArrays key ∧ key ∉ rest.keys ∧ (s.Solid ∧ s.Regular) ∧ rest.Regular := by
  simp [optional, Presence.lawful_optional]

/-- With a field for a list in front, fields are regular if its key is new and no index, and its
items are regular. -/
@[simp] theorem regular_listed_iff {s : Shape α} :
    (listed key s.list rest).Regular ↔
      OutsideArrays key ∧ key ∉ rest.keys ∧ s.Regular ∧ rest.Regular := by
  simp [listed, Presence.lawful_listed]

/-- With a field for a text in front, fields are regular if its key is new and no index. -/
@[simp] theorem regular_worded_iff :
    (worded key .text rest).Regular ↔ OutsideArrays key ∧ key ∉ rest.keys ∧ rest.Regular := by
  have hp : Presence.Lawful .text (.omitted "" (· == "")) := ⟨fun a => by simp, fun _ _ => trivial⟩
  simp [worded, hp]

/-- With a field for a dictionary in front, fields are regular if its key is new and no index, and
its values are regular. -/
@[simp] theorem regular_keyed_iff {s : Shape α} :
    (keyed key s.dictionary rest).Regular ↔
      OutsideArrays key ∧ key ∉ rest.keys ∧ s.Regular ∧ rest.Regular := by
  have hp : Presence.Lawful s.dictionary (.omitted ∅ Dictionary.isEmpty) := by
    refine ⟨fun d => ⟨fun h => Dictionary.ext (List.isEmpty_iff.1 h), ?_⟩,
      fun b hb k b' hb' => hb k b' hb'⟩
    rintro rfl
    rfl
  simp [keyed, hp]

end Fields

/-! ## Set-up of nodes -/

namespace Kubeadm

/-- An etcd on the nodes can be changed and patched, and is not written as null. -/
theorem LocalEtcd.regular_shape : LocalEtcd.shape.Solid ∧ LocalEtcd.shape.Regular := by
  refine ⟨trivial, fun _ => rfl, fun _ => rfl, ?_⟩
  simp
  decide

/-- Settings of etcd can be changed and patched, and are not written as null. -/
theorem EtcdConfiguration.regular_shape :
    EtcdConfiguration.shape.Solid ∧ EtcdConfiguration.shape.Regular := by
  refine ⟨trivial, fun _ => rfl, fun _ => rfl, ?_⟩
  simp [LocalEtcd.regular_shape]
  decide

/-- An API server can be changed and patched, and is not written as null. -/
theorem ApiServer.regular_shape : ApiServer.shape.Solid ∧ ApiServer.shape.Regular := by
  refine ⟨trivial, fun _ => rfl, fun _ => rfl, ?_⟩
  simp
  decide

/-- Settings of the components can be changed and patched, and are not written as null. -/
theorem ClusterConfiguration.regular_shape :
    ClusterConfiguration.shape.Solid ∧ ClusterConfiguration.shape.Regular := by
  refine ⟨trivial, fun _ => rfl, fun _ => rfl, ?_⟩
  simp [EtcdConfiguration.regular_shape,
    ApiServer.regular_shape]
  decide

/-- A file can be changed and patched, and is not written as null. -/
theorem File.regular_shape : File.shape.Solid ∧ File.shape.Regular := by
  refine ⟨trivial, fun _ => rfl, fun _ => rfl, ?_⟩
  simp
  decide

/-- A user can be changed and patched, and is not written as null. -/
theorem User.regular_shape : User.shape.Solid ∧ User.shape.Regular := by
  refine ⟨trivial, fun _ => rfl, fun _ => rfl, ?_⟩
  simp
  decide

end Kubeadm

/-- A set-up of nodes can be changed and patched, and is not written as null. -/
theorem KubeadmConfigSpec.regular_shape :
    KubeadmConfigSpec.shape.Solid ∧ KubeadmConfigSpec.shape.Regular := by
  refine ⟨trivial, fun _ => rfl, fun _ => rfl, ?_⟩
  simp [Kubeadm.ClusterConfiguration.regular_shape,
    Kubeadm.File.regular_shape, Kubeadm.User.regular_shape]
  decide

/-- Any settings of the components may come after any others: nothing in them is spelled out or kept
as it is. -/
theorem Kubeadm.ClusterConfiguration.follows (o : Option ClusterConfiguration)
    (b : ClusterConfiguration) : ClusterConfiguration.shape.Follows o b := by
  simp [ClusterConfiguration.shape, Shape.struct, Fields.optional, Fields.listed, Fields.keyed,
    EtcdConfiguration.shape, ApiServer.shape, LocalEtcd.shape]

/-- Any set-up of nodes may come after any other. -/
theorem KubeadmConfigSpec.follows (o : Option KubeadmConfigSpec) (b : KubeadmConfigSpec) :
    KubeadmConfigSpec.shape.Follows o b := by
  simp [KubeadmConfigSpec.shape, Shape.struct, Fields.optional, Fields.listed, Fields.required,
    Kubeadm.ClusterConfiguration.follows, Kubeadm.File.shape, Kubeadm.User.shape]

/-! ## Machines and clusters -/

namespace Docker

/-- A machine on Docker can be changed and patched, and is not written as null. -/
theorem MachineSpec.regular_shape : MachineSpec.shape.Solid ∧ MachineSpec.shape.Regular := by
  refine ⟨trivial, fun _ => rfl, fun _ => rfl, ?_⟩
  simp
  decide

/-- A load balancer on Docker can be changed and patched, and is not written as null. -/
theorem LoadBalancer.regular_shape : LoadBalancer.shape.Solid ∧ LoadBalancer.shape.Regular := by
  refine ⟨trivial, fun _ => rfl, fun _ => rfl, ?_⟩
  simp
  decide

/-- A cluster on Docker can be changed and patched, and is not written as null. -/
theorem ClusterSpec.regular_shape : ClusterSpec.shape.Solid ∧ ClusterSpec.shape.Regular := by
  refine ⟨trivial, fun _ => rfl, fun _ => rfl, ?_⟩
  simp [LoadBalancer.regular_shape]
  decide

/-- Any machine on Docker may come after any other. -/
theorem MachineSpec.follows (o : Option MachineSpec) (b : MachineSpec) :
    MachineSpec.shape.Follows o b := by
  simp [MachineSpec.shape, Shape.struct, Fields.optional]

/-- Any cluster on Docker may come after any other. -/
theorem ClusterSpec.follows (o : Option ClusterSpec) (b : ClusterSpec) :
    ClusterSpec.shape.Follows o b := by
  simp [ClusterSpec.shape, LoadBalancer.shape, Shape.struct, Fields.optional]

end Docker

namespace Aws

/-- A machine on AWS can be changed and patched, and is not written as null. -/
theorem MachineSpec.regular_shape : MachineSpec.shape.Solid ∧ MachineSpec.shape.Regular := by
  refine ⟨trivial, fun _ => rfl, fun _ => rfl, ?_⟩
  simp
  decide

/-- A cluster on AWS can be changed and patched, and is not written as null. -/
theorem ClusterSpec.regular_shape : ClusterSpec.shape.Solid ∧ ClusterSpec.shape.Regular := by
  refine ⟨trivial, fun _ => rfl, fun _ => rfl, ?_⟩
  simp
  decide

/-- Any machine on AWS may come after any other. -/
theorem MachineSpec.follows (o : Option MachineSpec) (b : MachineSpec) :
    MachineSpec.shape.Follows o b := by
  simp [MachineSpec.shape, Shape.struct, Fields.worded, Fields.optional]

/-- Any cluster on AWS may come after any other. -/
theorem ClusterSpec.follows (o : Option ClusterSpec) (b : ClusterSpec) :
    ClusterSpec.shape.Follows o b := by
  simp [ClusterSpec.shape, Shape.struct, Fields.optional]

end Aws

/-! ## Metadata -/

namespace OwnerReference

@[simp] theorem keys_word {β : Type} (key : String) (rest : Fields β) :
    (word key rest).keys = key :: rest.keys := rfl

/-- With a required text in front, fields are regular if its key is new and no index. -/
@[simp] theorem regular_word_iff {β : Type} {key : String} {rest : Fields β} :
    (word key rest).Regular ↔ OutsideArrays key ∧ key ∉ rest.keys ∧ rest.Regular := by
  simp [word, Shape.toJson]

/-- A reference to an owner can be changed and patched, and is not written as null. -/
theorem regular_shape : shape.Solid ∧ shape.Regular := by
  refine ⟨trivial, fun _ => rfl, fun _ => rfl, ?_⟩
  simp
  decide

end OwnerReference

/-- An entry of the history can be changed and patched, and is not written as null. -/
theorem ManagedFields.regular_shape : ManagedFields.shape.Solid ∧ ManagedFields.shape.Regular := by
  refine ⟨trivial, fun _ => rfl, fun _ => rfl, ?_⟩
  simp
  decide

namespace ObjectMeta

/-- Metadata can be changed and patched, and are not written as null. -/
theorem regular_shape : shape.Solid ∧ shape.Regular := by
  refine ⟨trivial, fun _ => rfl, fun _ => rfl, ?_⟩
  simp [OwnerReference.regular_shape, ManagedFields.regular_shape]
  decide

/-- Blank metadata may come after none: no point in time and no owned fields are in them. -/
theorem follows_blank : shape.Follows none blank := by
  simp [shape, blank, Shape.lenient, Fields.optional]

end ObjectMeta

/-! ## Templates -/

namespace Template

variable {σ : Type} {title key : String} {absent : σ} {inner : Shape σ}

/-- A value in a box may come after another one exactly if it may by itself. -/
theorem follows_boxed_iff {o : Option σ} {b : σ} :
    (boxed title key absent inner).Follows o b ↔ inner.Follows o b := by
  have ho : (o.map fun a => (a, ())).map Prod.fst = o := by cases o <;> rfl
  simp [boxed, Shape.struct, Fields.defaulted, ho]

/-- Values in a box can be changed and patched if they can by themselves, and the one for a missing
box may come after none. -/
theorem regular_boxed (hk : OutsideArrays key) (ha : inner.Follows none absent)
    (hi : inner.Regular) : (boxed title key absent inner).Regular := by
  refine ⟨fun _ => rfl, fun _ => rfl, ?_⟩
  simp [hk, ha, hi]

/-- A specification of templates may come after another one exactly if what it specifies may. -/
theorem follows_specShape_iff {o : Option σ} {b : σ} :
    (specShape title absent inner).Follows o b ↔ inner.Follows o b := by
  rw [specShape, follows_boxed_iff, resourceShape, follows_boxed_iff]

/-- Specifications of templates can be changed and patched if what they specify can. -/
theorem regular_specShape (ha : inner.Follows none absent) (hi : inner.Regular) :
    (specShape title absent inner).Regular := by
  refine regular_boxed (by decide) ?_ (regular_boxed (by decide) ha hi)
  rwa [resourceShape, follows_boxed_iff]

/-- A template may follow another one if that is so for its metadata and its specification. -/
theorem follows_shape_iff {before after : Template σ} :
    (shape title absent inner).Follows (some before) after ↔
      ObjectMeta.shape.Follows (some before.metadata) after.metadata ∧
        inner.Follows (some before.spec) after.spec := by
  simp [shape, Shape.struct, Fields.required, Fields.defaulted,
    follows_specShape_iff]

/-- Templates can be changed and patched if what they specify can. -/
theorem regular_shape (ha : inner.Follows none absent) (hi : inner.Regular) :
    (shape title absent inner).Regular := by
  refine ⟨fun _ => rfl, fun _ => rfl, ?_⟩
  simp [ObjectMeta.follows_blank, ObjectMeta.regular_shape, follows_specShape_iff, ha,
    regular_specShape ha hi]
  decide

end Template

namespace TemplateKind

/-- What a template specifies may always be changed: it holds nothing that can get lost. -/
theorem follows_innerShape (k : TemplateKind) (o : Option k.Spec) (b : k.Spec) :
    k.innerShape.Follows o b := by
  cases k
  case kubeadmControlPlane => exact Template.follows_boxed_iff.2 (KubeadmConfigSpec.follows o b)
  case kubeadmConfig => exact KubeadmConfigSpec.follows o b
  case dockerMachine => exact Docker.MachineSpec.follows o b
  case dockerCluster => exact Docker.ClusterSpec.follows o b
  case awsMachine => exact Aws.MachineSpec.follows o b
  case awsCluster => exact Aws.ClusterSpec.follows o b

/-- What the templates of any kind specify can be changed and patched. -/
theorem regular_innerShape (k : TemplateKind) : k.innerShape.Regular := by
  cases k
  case kubeadmControlPlane =>
    exact Template.regular_boxed (by decide) (KubeadmConfigSpec.follows none _)
      KubeadmConfigSpec.regular_shape.2
  case kubeadmConfig => exact KubeadmConfigSpec.regular_shape.2
  case dockerMachine => exact Docker.MachineSpec.regular_shape.2
  case dockerCluster => exact Docker.ClusterSpec.regular_shape.2
  case awsMachine => exact Aws.MachineSpec.regular_shape.2
  case awsCluster => exact Aws.ClusterSpec.regular_shape.2

/-- The templates of every kind can be read, changed and patched. -/
theorem regular_shape (k : TemplateKind) : k.shape.Regular :=
  Template.regular_shape (k.follows_innerShape none k.blankSpec) k.regular_innerShape

end TemplateKind

end TopologyHooks
