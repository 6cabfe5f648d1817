import TopologyHooks.Feature.Basic

/-!
# Users of nodes

Configured accounts become users of every node. An account replaces the first user of its name; an
account without a password is locked.
-/

set_option autoImplicit false

namespace TopologyHooks

namespace Feature

namespace Users

/-- The user of a node that an account becomes. -/
def ofAccount (account : ClusterConfig.User) : Kubeadm.User where
  name := account.name
  passwd := account.hashedPassword
  lockPassword := some account.hashedPassword.isNone
  sshAuthorizedKeys := account.sshAuthorizedKeys
  sudoers := account.sudoers

/-- The users of a node after some accounts are added. -/
def addAll : List ClusterConfig.User → List Kubeadm.User → Except Error (List Kubeadm.User)
  | [], users => .ok users
  | account :: rest, users =>
    if account.name == "" then .error (.mutation "users" (.emptySetting "user name"))
    else addAll rest (upsert Kubeadm.User.name (ofAccount account) users)

/-- Adds accounts to a node. -/
def configure (accounts : List ClusterConfig.User) (spec : KubeadmConfigSpec) :
    Except Error KubeadmConfigSpec :=
  (addAll accounts spec.users).map fun users => { spec with users := users }

end Users

/-- The users of every node. -/
def users : List Mutator :=
  [onControlPlane "users" (clusterConfig ["users"]) (.list ClusterConfig.User.shape)
      Users.configure,
    onWorkers "users-workers" (clusterConfig ["users"]) (.list ClusterConfig.User.shape)
      Users.configure]

end Feature

end TopologyHooks
