import TopologyHooks.Feature.Basic
import TopologyHooks.Text.Blank

/-!
# Registry mirror

The container runtime of every node pulls all images through one mirror: a file names the mirror
for registries without a file of their own, and a command makes the runtime read such files.
`Feature.Mirror.hosts` is the contents of the file.
-/

set_option autoImplicit false

namespace TopologyHooks

namespace Feature

namespace Mirror

/-- Where the file stands. -/
def hostsPath : String := "/etc/containerd/certs.d/_default/hosts.toml"

/-- The command that makes the container runtime read the file. -/
def enableCommand : String :=
  "sed -i 's|config_path = \"\"|config_path = \"/etc/containerd/certs.d\"|' "
    ++ "/etc/containerd/config.toml && systemctl restart containerd"

/-- Whether a text stands somewhere in another. -/
def contains (part : List Char) : List Char → Bool
  | [] => part.isEmpty
  | c :: cs => part.isPrefixOf (c :: cs) || contains part cs

/-- A mirror with a scheme, the secure one unless it names another. -/
def host (url : String) : String :=
  if contains [':', '/', '/'] url.toList then url else "https://" ++ url

/-- The contents of the file. -/
def hosts (url : String) : String :=
  "[host.\"" ++ host url ++ "\"]\n  capabilities = [\"pull\", \"resolve\"]\n"

/-- The name under which the feature reports errors. -/
def name : String := "global-image-registry-mirror"

/-- Adds the file and the command. -/
def configure (mirror : ClusterConfig.Mirror) (spec : KubeadmConfigSpec) :
    Except Error KubeadmConfigSpec :=
  let url := Text.trimmed mirror.url
  if url == "" then
    .error (.mutation name (.emptySetting "globalImageRegistryMirror.url"))
  else
    .ok ((spec.upsertFile
      ⟨hostsPath, some "root:root", some "0644", some (hosts url)⟩).ensureCommand enableCommand)

end Mirror

/-- The registry mirror of every node. -/
def mirror : List Mutator :=
  [onControlPlane Mirror.name (clusterConfig ["globalImageRegistryMirror"])
      ClusterConfig.Mirror.shape Mirror.configure,
    onWorkers (Mirror.name ++ "-workers") (clusterConfig ["globalImageRegistryMirror"])
      ClusterConfig.Mirror.shape Mirror.configure]

end Feature

end TopologyHooks
