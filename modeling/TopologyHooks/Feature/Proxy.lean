import TopologyHooks.Feature.Basic

/-!
# HTTP proxy

The container runtime of every node gets a drop-in that sets its proxy, and is restarted before
the node is set up. `Feature.Proxy.dropIn?` is the contents of the drop-in: each of the configured
proxies, and the destinations that bypass them, once in capitals and once in small letters.
-/

set_option autoImplicit false

namespace TopologyHooks

namespace Feature

namespace Proxy

/-- Where the drop-in stands. -/
def dropInPath : String := "/etc/systemd/system/containerd.service.d/http-proxy.conf"

/-- The command that makes the drop-in effective. -/
def restartCommand : String := "systemctl daemon-reload && systemctl restart containerd"

/-- The destinations that always bypass the proxy. -/
def defaultNoProxy : List String :=
  ["localhost", "127.0.0.1", "kubernetes", "kubernetes.default", ".svc", ".svc.cluster.local"]

/-- The destinations that bypass a proxy. -/
def noProxy (proxy : ClusterConfig.Proxy) : List String :=
  appendAllNew defaultNoProxy proxy.additionalNo

/-- A line that sets a variable of the environment. -/
def line (name value : String) : String := "Environment=\"" ++ name ++ "=" ++ value ++ "\"\n"

/-- The two lines of a setting. -/
def lines (capitals small value : String) : String := line capitals value ++ line small value

/-- The two lines of a setting that may be missing. -/
def optionalLines (capitals small : String) : Option String → String
  | none => ""
  | some value => lines capitals small value

/-- The contents of the drop-in, if a proxy is configured. -/
def dropIn? (proxy : ClusterConfig.Proxy) : Option String :=
  if proxy.http.isNone && proxy.https.isNone then none
  else
    some ("[Service]\n" ++ optionalLines "HTTP_PROXY" "http_proxy" proxy.http
      ++ optionalLines "HTTPS_PROXY" "https_proxy" proxy.https
      ++ lines "NO_PROXY" "no_proxy" (",".intercalate (noProxy proxy)))

/-- Adds the drop-in and the restart. -/
def configure (proxy : ClusterConfig.Proxy) (spec : KubeadmConfigSpec) : KubeadmConfigSpec :=
  match dropIn? proxy with
  | none => spec
  | some content =>
    (spec.upsertFile ⟨dropInPath, some "root:root", some "0640", some content⟩).ensureCommand
      restartCommand

end Proxy

/-- The HTTP proxy of every node. -/
def proxy : List Mutator :=
  let change (proxy : ClusterConfig.Proxy) (spec : KubeadmConfigSpec) :
      Except Error KubeadmConfigSpec := .ok (Proxy.configure proxy spec)
  [onControlPlane "http-proxy-control-plane" (clusterConfig ["proxy"]) ClusterConfig.Proxy.shape
      change,
    onWorkers "http-proxy-workers" (clusterConfig ["proxy"]) ClusterConfig.Proxy.shape change]

end Feature

end TopologyHooks
