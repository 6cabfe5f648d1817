import TopologyHooks.Lifecycle.Plan
import TopologyHooks.Variable.ClusterConfig
import TopologyHooks.Variable.Store

/-!
# A default registry mirror for new clusters

Before a cluster is created, this handler writes a default registry mirror into the topology
variables of the cluster, unless they name a mirror already. A cluster without topology variables
stays as it is; one whose variables cannot be read is refused, and calling again does not help.
-/

set_option autoImplicit false

namespace TopologyHooks

namespace MirrorDefault

/-- The name of the handler. -/
def handlerName : String := "registry-mirror-defaults"

/-- The hook that the handler serves. -/
def hook : Hook := .beforeClusterCreate

/-- The place of the registry mirror in the variables. -/
def mirrorRef : VariableRef := ⟨ClusterConfig.variableName, ["globalImageRegistryMirror"]⟩

/-- A default mirror, and the time after which a failed write is tried again. -/
structure Settings where
  mirror : ClusterConfig.Mirror
  retryAfterSeconds : Signed32

/-- The text at a path inside a cluster. -/
def textAt? (cluster : Json) (path : List String) : Option String :=
  (cluster.at? path).bind Json.string?

/-- Gives the first variable of a name a value, or appends a new variable. -/
def replaceFirst (name : String) (value : Json) : List ClusterVariable → List ClusterVariable
  | [] => [⟨name, value, none⟩]
  | v :: rest =>
    if v.name = name then { v with value := value } :: rest
    else v :: replaceFirst name value rest

/-- The variables of a cluster with the default mirror, unless nothing is to be written. -/
def defaulted? (mirror : ClusterConfig.Mirror) (cluster : Json) :
    Except Error (Option (List ClusterVariable)) :=
  match cluster.at? ["spec", "topology", "variables"] with
  | none => .ok none
  | some raw =>
    match (Shape.list ClusterVariable.shape).ofJson raw with
    | .error f => .error (.serialization none (.topologyVariables f))
    | .ok bindings =>
      let vars := Variables.ofList bindings
      match mirrorRef.get ClusterConfig.Mirror.shape vars with
      | .error e => .error e
      | .ok (some _) => .ok none
      | .ok none =>
        match mirrorRef.set (ClusterConfig.Mirror.shape.toJson mirror) vars with
        | (_, some e) => .error e
        | (vars, none) =>
          match Dictionary.get? vars ClusterConfig.variableName with
          | none => .error (.internal Error.unknownContext
              (.stated "clusterConfig missing after set"))
          | some value => .ok (some (replaceFirst ClusterConfig.variableName value bindings))

/-- The answer to an outcome of the write. -/
def answer (s : Settings) : Except Error Unit → HookResponse
  | .ok () => .success hook
  | .error e =>
    let failure := HookResponse.failure hook e.message
    if e.isRetryable then failure.withRetryAfter hook s.retryAfterSeconds else failure

/-- What follows the write: the answer to its outcome. -/
def finish (s : Settings) (outcome : Except Error Unit) : Plan HookResponse :=
  .answer (answer s outcome)

/-- What the handler does. -/
def call (s : Settings) (request : LifecycleRequest) : Plan HookResponse :=
  let cluster := request.cluster
  match textAt? cluster ["metadata", "name"] with
  | none => .answer (.failure hook "cluster has no metadata.name")
  | some name =>
    match defaulted? s.mirror cluster with
    | .error e => .answer (.failure hook e.message)
    | .ok none => .answer (.success hook)
    | .ok (some bindings) =>
      let space := (textAt? cluster ["metadata", "namespace"]).getD "default"
      .write ⟨space, name, bindings⟩ (finish s)

/-- The handler with some settings. -/
def handler (s : Settings) : LifecycleHandler := ⟨handlerName, hook, call s⟩

end MirrorDefault

end TopologyHooks
