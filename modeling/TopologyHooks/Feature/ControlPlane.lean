import TopologyHooks.Feature.Basic

/-!
# Components of the control plane

* `Feature.imageRepository` — the registry of the images of the components.
* `Feature.etcdImage` — the image of etcd; only the parts that are configured are set.
* `Feature.certSANs` — more names for the certificate of the API server. Names that are there
  keep their places, so that changes are appended.
-/

set_option autoImplicit false

namespace TopologyHooks

namespace Feature

open Kubeadm

/-! ## Images -/

/-- Sets the registry of the images of the components. -/
def setImageRepository (repository : String) (spec : KubeadmConfigSpec) : KubeadmConfigSpec :=
  spec.modifyCluster fun c => { c with imageRepository := some repository }

/-- The registry of the images of the components. -/
def imageRepository : List Mutator :=
  [onControlPlane "kubernetes-image-repository" (clusterConfig ["kubernetesImageRepository"])
    .text fun repository spec => .ok (setImageRepository repository spec)]

/-- An etcd with the configured parts of an image. -/
def LocalEtcd.withImage (etcd : LocalEtcd) (image : ClusterConfig.Image) : LocalEtcd :=
  { etcd with
    imageRepository := image.repository.or etcd.imageRepository
    imageTag := image.tag.or etcd.imageTag }

/-- Sets the configured parts of the image of etcd. -/
def setEtcdImage (etcd : ClusterConfig.Etcd) (spec : KubeadmConfigSpec) : KubeadmConfigSpec :=
  match etcd.image with
  | none => spec
  | some image =>
    if image.repository.isNone && image.tag.isNone then spec
    else
      spec.modifyCluster fun c =>
        let found := (c.etcd.bind EtcdConfiguration.onNodes).getD .blank
        { c with etcd := some ⟨some (LocalEtcd.withImage found image)⟩ }

/-- The image of etcd. -/
def etcdImage : List Mutator :=
  [onControlPlane "etcd-image" (clusterConfig ["etcd"]) ClusterConfig.Etcd.shape
    fun etcd spec => .ok (setEtcdImage etcd spec)]

/-! ## Certificates -/

/-- Appends names for the certificate of the API server. -/
def addCertSANs (names : List String) (spec : KubeadmConfigSpec) : KubeadmConfigSpec :=
  if names.isEmpty then spec
  else
    spec.modifyCluster fun c =>
      let server := c.apiServer.getD .blank
      { c with apiServer := some { server with certSANs := appendAllNew server.certSANs names } }

/-- More names for the certificate of the API server. -/
def certSANs : List Mutator :=
  [onControlPlane "extra-apiserver-cert-sans" (clusterConfig ["extraAPIServerCertSANs"])
    (.list .text) fun names spec => .ok (addCertSANs names spec)]

end Feature

end TopologyHooks
