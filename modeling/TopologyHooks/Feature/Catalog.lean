import TopologyHooks.Feature.Aws
import TopologyHooks.Feature.ControlPlane
import TopologyHooks.Feature.Docker
import TopologyHooks.Feature.Mirror
import TopologyHooks.Feature.Proxy
import TopologyHooks.Feature.Users
import TopologyHooks.Handler

/-!
# The handlers of the extension

* `Feature.shared` — the mutators that every provider has.
* `Handler.docker`, `Handler.aws` — the handlers for clusters on Docker and on AWS.
-/

set_option autoImplicit false

namespace TopologyHooks

/-- The mutators of all providers. -/
def Feature.shared : List Mutator :=
  imageRepository ++ etcdImage ++ certSANs ++ proxy ++ mirror ++ users

namespace Handler

/-- The definitions of the two variables of a provider, and its mutators. -/
def ofProvider {α β : Type} (name : String) (cluster : Shape α) (worker : Shape β)
    (own : List Mutator) (registry : ObjectRegistry) : Except Error Handler :=
  match VariableDefinition.ofSchema ClusterConfig.variableName true cluster.advertised,
    VariableDefinition.ofSchema workerConfigName false worker.advertised with
  | .ok clusterConfig, .ok workerConfig =>
    Draft.build ⟨name, [clusterConfig, workerConfig], Feature.shared ++ own⟩ registry
  | .error e, _ => .error e
  | _, .error e => .error e

/-- The handler for clusters on Docker. -/
def docker (registry : ObjectRegistry) : Except Error Handler :=
  ofProvider "docker-cluster-config" Docker.Config.shape Docker.WorkerConfig.shape
    Feature.dockerImages registry

/-- The handler for clusters on AWS. -/
def aws (registry : ObjectRegistry) : Except Error Handler :=
  ofProvider "aws-cluster-config" Aws.Config.shape Aws.WorkerConfig.shape
    Feature.awsMachines registry

end Handler

end TopologyHooks
