import TopologyHooks.Shape.Write

/-!
# Settings shared by all providers

The values of the variable `clusterConfig` that do not depend on where a cluster runs: images,
certificates, proxy, registry mirror and users. `ClusterConfig.shape` is how they are written;
the descriptions in it are those of the advertised schema.
-/

set_option autoImplicit false

namespace TopologyHooks

namespace ClusterConfig

/-- The variable for the whole cluster. -/
def variableName : String := "clusterConfig"

/-- An image, split into repository and tag. -/
structure Image where
  repository : Option String
  tag : Option String
  deriving DecidableEq

/-- How an image is written. -/
def Image.shape : Shape Image :=
  .described "Container image reference split into repository and tag" <|
  .struct "Image"
    (.optional "repository"
      (.described "Image repository (e.g., \"registry.k8s.io\")" .text) <|
     .optional "tag" (.described "Image tag (e.g., \"v3.5.9\")" .text) .done)
    (fun (repository, tag, _) => ⟨repository, tag⟩)
    (fun i => (i.repository, i.tag, ()))

/-- Settings of etcd. -/
structure Etcd where
  image : Option Image
  deriving DecidableEq

/-- How the settings of etcd are written. -/
def Etcd.shape : Shape Etcd :=
  .described "etcd configuration" <|
  .struct "Etcd" (.optional "image" (.described "etcd image override" Image.shape) .done)
    (fun (image, _) => ⟨image⟩) (fun e => (e.image, ()))

/-- A proxy for HTTP traffic. -/
structure Proxy where
  http : Option String
  https : Option String
  additionalNo : List String
  deriving DecidableEq

/-- How a proxy is written. -/
def Proxy.shape : Shape Proxy :=
  .described "HTTP proxy configuration" <|
  .struct "HttpProxy"
    (.optional "http" (.described "Proxy for plain HTTP traffic" .text) <|
     .optional "https" (.described "Proxy for HTTPS traffic" .text) <|
     .listed "additionalNo"
      (.described
        "Destinations that bypass the proxy, in addition to the cluster-internal defaults"
        (.list .text)) .done)
    (fun (http, https, others, _) => ⟨http, https, others⟩)
    (fun p => (p.http, p.https, p.additionalNo, ()))

/-- A mirror for all image pulls. -/
structure Mirror where
  url : String
  deriving DecidableEq

/-- How a mirror is written. -/
def Mirror.shape : Shape Mirror :=
  .described "Registry mirror for all image pulls" <|
  .struct "GlobalImageRegistryMirror"
    (.required "url"
      (.described "Mirror URL (e.g., \"https://mirror.example.com\")" .text) .done)
    (fun (url, _) => ⟨url⟩) (fun m => (m.url, ()))

/-- An account on every node. -/
structure User where
  name : String
  hashedPassword : Option String
  sshAuthorizedKeys : List String
  sudoers : Option String
  deriving DecidableEq

/-- How an account is written. -/
def User.shape : Shape User :=
  .described "Node user account" <|
  .struct "User"
    (.required "name" (.described "Login name" .text) <|
     .optional "hashedPassword" (.described "Password hash in crypt(3) format" .text) <|
     .listed "sshAuthorizedKeys"
      (.described "SSH public keys authorized for this user" (.list .text)) <|
     .optional "sudo"
      (.described "sudoers rule (e.g., \"ALL=(ALL) NOPASSWD:ALL\")" .text) .done)
    (fun (name, password, keys, sudoers, _) => ⟨name, password, keys, sudoers⟩)
    (fun u => (u.name, u.hashedPassword, u.sshAuthorizedKeys, u.sudoers, ()))

end ClusterConfig

/-- The settings shared by all providers. -/
structure ClusterConfig where
  kubernetesImageRepository : Option String
  etcd : Option ClusterConfig.Etcd
  extraCertSANs : Option (List String)
  proxy : Option ClusterConfig.Proxy
  registryMirror : Option ClusterConfig.Mirror
  users : Option (List ClusterConfig.User)
  deriving DecidableEq

namespace ClusterConfig

/-- The fields of the shared settings. -/
def fields : Fields (Option String × Option Etcd × Option (List String) × Option Proxy ×
    Option Mirror × Option (List User) × Unit) :=
  .optional "kubernetesImageRepository"
    (.described ("Registry to pull Kubernetes control plane images from "
      ++ "(e.g., \"registry.example.com/k8s\")") .text) <|
  .optional "etcd" (.described "etcd configuration" Etcd.shape) <|
  .optional "extraAPIServerCertSANs"
    (.described "Extra Subject Alternative Names for the API server signing certificate"
      (.list .text)) <|
  .optional "proxy"
    (.described "HTTP proxy used by containerd on every node" Proxy.shape) <|
  .optional "globalImageRegistryMirror"
    (.described "Registry mirror used for all image pulls" Mirror.shape) <|
  .optional "users" (.described "Users to create on every node" (.list User.shape)) .done

/-- The shared settings with their fields in a row. -/
def ofRow : Option String × Option Etcd × Option (List String) × Option Proxy ×
    Option Mirror × Option (List User) × Unit → ClusterConfig
  | (repository, etcd, names, proxy, mirror, users, _) =>
    ⟨repository, etcd, names, proxy, mirror, users⟩

/-- The fields of the shared settings in a row. -/
def row (c : ClusterConfig) : Option String × Option Etcd × Option (List String) × Option Proxy ×
    Option Mirror × Option (List User) × Unit :=
  (c.kubernetesImageRepository, c.etcd, c.extraCertSANs, c.proxy, c.registryMirror, c.users, ())

/-- How the shared settings are written. -/
def shape : Shape ClusterConfig :=
  .described "Cluster configuration shared by all infrastructure providers" <|
  .struct "GenericClusterConfig" fields ofRow row

end ClusterConfig

end TopologyHooks
