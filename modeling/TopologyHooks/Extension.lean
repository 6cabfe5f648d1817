import TopologyHooks.Endpoint
import TopologyHooks.Feature.Catalog
import TopologyHooks.Lifecycle.MirrorDefault
import TopologyHooks.Options.Config

/-!
# The whole extension

`Extension.endpoints` — the endpoints of an extension that is run with some configuration: the
handlers of both providers and, where a default registry mirror is configured, the handler that
writes it into new clusters.
-/

set_option autoImplicit false

namespace TopologyHooks

namespace Extension

/-- The handlers of the providers. -/
def providers : List (ObjectRegistry → Except Error Handler) := [Handler.docker, Handler.aws]

/-- Adds a handler of a provider, which knows all kinds of templates. -/
def addProvider (t : EndpointTable) (build : ObjectRegistry → Except Error Handler) :
    Except RequestError EndpointTable :=
  match build .full with
  | .ok h => t.register (.topology h)
  | .error e => .error (.ofError e)

/-- Adds the handlers of some providers. -/
def addProviders (t : EndpointTable) :
    List (ObjectRegistry → Except Error Handler) → Except RequestError EndpointTable
  | [] => .ok t
  | build :: rest =>
    match addProvider t build with
    | .ok t => addProviders t rest
    | .error e => .error e

/-- Adds the handler of the default registry mirror, if there is one. -/
def addMirror (c : Config) (t : EndpointTable) : Except RequestError EndpointTable :=
  match c.defaultRegistryMirror with
  | none => .ok t
  | some url => t.register (.lifecycle (MirrorDefault.handler ⟨⟨url⟩, c.retryAfterSeconds⟩))

/-- The endpoints of an extension with a configuration. -/
def endpoints (c : Config) : Except RequestError EndpointTable :=
  match addProviders (.empty c.timeoutSeconds c.failurePolicy) providers with
  | .ok t => addMirror c t
  | .error e => .error e

end Extension

end TopologyHooks
