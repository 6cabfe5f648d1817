import TopologyHooks.Template.Basic
import TopologyHooks.Upsert

/-!
# Node configuration

* `KubeadmConfigSpec` — how a node is set up: the configuration of the cluster's components, files,
  commands and users.
* `KubeadmConfigSpec.upsertFile`, `ensureCommand`, `modifyCluster` — the changes that features make
  to it.
-/

set_option autoImplicit false

namespace TopologyHooks

namespace Kubeadm

/-- An etcd that runs on the nodes of the control plane. -/
structure LocalEtcd where
  imageRepository : Option String
  imageTag : Option String
  extraArgs : Dictionary String
  deriving DecidableEq

/-- An etcd without settings. -/
def LocalEtcd.blank : LocalEtcd := ⟨none, none, ∅⟩

/-- How a local etcd is written. -/
def LocalEtcd.shape : Shape LocalEtcd :=
  .struct "LocalEtcd"
    (.optional "imageRepository" .text <|
     .optional "imageTag" .text <|
     .keyed "extraArgs" (.dictionary .text) .done)
    (fun (repository, tag, args, _) => ⟨repository, tag, args⟩)
    (fun e => (e.imageRepository, e.imageTag, e.extraArgs, ()))

/-- Where etcd runs. -/
structure EtcdConfiguration where
  onNodes : Option LocalEtcd
  deriving DecidableEq

/-- How the place of etcd is written. -/
def EtcdConfiguration.shape : Shape EtcdConfiguration :=
  .struct "EtcdConfiguration" (.optional "local" LocalEtcd.shape .done)
    (fun (etcd, _) => ⟨etcd⟩) (fun e => (e.onNodes, ()))

/-- Settings of the API server. -/
structure ApiServer where
  certSANs : List String
  extraArgs : Dictionary String
  deriving DecidableEq

/-- An API server without settings. -/
def ApiServer.blank : ApiServer := ⟨[], ∅⟩

/-- How the settings of the API server are written. -/
def ApiServer.shape : Shape ApiServer :=
  .struct "ApiServer"
    (.listed "certSANs" (.list .text) <| .keyed "extraArgs" (.dictionary .text) .done)
    (fun (names, args, _) => ⟨names, args⟩) (fun s => (s.certSANs, s.extraArgs, ()))

/-- Settings of the components of a cluster. -/
structure ClusterConfiguration where
  imageRepository : Option String
  etcd : Option EtcdConfiguration
  apiServer : Option ApiServer
  deriving DecidableEq

/-- Components without settings. -/
def ClusterConfiguration.blank : ClusterConfiguration := ⟨none, none, none⟩

/-- How the settings of the components are written. -/
def ClusterConfiguration.shape : Shape ClusterConfiguration :=
  .struct "ClusterConfiguration"
    (.optional "imageRepository" .text <|
     .optional "etcd" EtcdConfiguration.shape <|
     .optional "apiServer" ApiServer.shape .done)
    (fun (repository, etcd, server, _) => ⟨repository, etcd, server⟩)
    (fun c => (c.imageRepository, c.etcd, c.apiServer, ()))

/-- A file on a node. -/
structure File where
  path : String
  owner : Option String
  permissions : Option String
  content : Option String
  deriving DecidableEq

/-- How a file is written. -/
def File.shape : Shape File :=
  .struct "File"
    (.required "path" .text <|
     .optional "owner" .text <|
     .optional "permissions" .text <|
     .optional "content" .text .done)
    (fun (path, owner, permissions, content, _) => ⟨path, owner, permissions, content⟩)
    (fun f => (f.path, f.owner, f.permissions, f.content, ()))

/-- A user of a node. -/
structure User where
  name : String
  passwd : Option String
  lockPassword : Option Bool
  sshAuthorizedKeys : List String
  sudoers : Option String
  deriving DecidableEq

/-- How a user is written. -/
def User.shape : Shape User :=
  .struct "KubeadmUser"
    (.required "name" .text <|
     .optional "passwd" .text <|
     .optional "lockPassword" .flag <|
     .listed "sshAuthorizedKeys" (.list .text) <|
     .optional "sudo" .text .done)
    (fun (name, password, lock, keys, sudoers, _) => ⟨name, password, lock, keys, sudoers⟩)
    (fun u => (u.name, u.passwd, u.lockPassword, u.sshAuthorizedKeys, u.sudoers, ()))

end Kubeadm

/-- How a node is set up. -/
structure KubeadmConfigSpec where
  clusterConfiguration : Option Kubeadm.ClusterConfiguration
  files : List Kubeadm.File
  preKubeadmCommands : List String
  postKubeadmCommands : List String
  users : List Kubeadm.User
  deriving DecidableEq

namespace KubeadmConfigSpec

/-- A node without any set-up. -/
def blank : KubeadmConfigSpec := ⟨none, [], [], [], []⟩

/-- How the set-up of a node is written. -/
def shape : Shape KubeadmConfigSpec :=
  .struct "KubeadmConfigSpec"
    (.optional "clusterConfiguration" Kubeadm.ClusterConfiguration.shape <|
     .listed "files" (.list Kubeadm.File.shape) <|
     .listed "preKubeadmCommands" (.list .text) <|
     .listed "postKubeadmCommands" (.list .text) <|
     .listed "users" (.list Kubeadm.User.shape) .done)
    (fun (cluster, files, before, after, users, _) => ⟨cluster, files, before, after, users⟩)
    (fun s => (s.clusterConfiguration, s.files, s.preKubeadmCommands, s.postKubeadmCommands,
      s.users, ()))

/-- How the set-up of the nodes of a control plane is written. -/
def controlPlaneShape : Shape KubeadmConfigSpec :=
  Template.boxed "KubeadmControlPlaneTemplateResourceSpec" "kubeadmConfigSpec" blank shape

/-- Replaces the first file at the path of a new one, or appends the new one. -/
def upsertFile (spec : KubeadmConfigSpec) (file : Kubeadm.File) : KubeadmConfigSpec :=
  { spec with files := upsert Kubeadm.File.path file spec.files }

/-- Appends a command to those that run first, unless it is there. -/
def ensureCommand (spec : KubeadmConfigSpec) (command : String) : KubeadmConfigSpec :=
  { spec with preKubeadmCommands := appendNew spec.preKubeadmCommands command }

/-- Changes the settings of the components; missing ones are created. -/
def modifyCluster (spec : KubeadmConfigSpec)
    (change : Kubeadm.ClusterConfiguration → Kubeadm.ClusterConfiguration) : KubeadmConfigSpec :=
  { spec with
    clusterConfiguration := some (change (spec.clusterConfiguration.getD .blank)) }

end KubeadmConfigSpec

end TopologyHooks
