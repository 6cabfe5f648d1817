import TopologyHooks.Message.Variable

/-!
# The messages of the hook that asks for variable definitions
-/

set_option autoImplicit false

namespace TopologyHooks

/-- A request for variable definitions. -/
structure DiscoverVariablesRequest where
  apiVersion : String
  kind : String
  settings : Settings

namespace DiscoverVariablesRequest

/-- How the request is written. -/
def shape : Shape DiscoverVariablesRequest :=
  .struct "DiscoverVariablesRequest"
    (Message.version <| Message.kind <| Message.settings .done)
    (fun (version, kind, settings, _) => ⟨version, kind, settings⟩)
    (fun r => (r.apiVersion, r.kind, r.settings, ()))

/-- The request without contents. -/
def blank : DiscoverVariablesRequest := ⟨"", "", ∅⟩

end DiscoverVariablesRequest

/-- The variable definitions of a handler, or why there are none. -/
structure DiscoverVariablesResponse where
  apiVersion : String
  kind : String
  status : Status
  message : String
  definitions : List ClusterClassVariable

namespace DiscoverVariablesResponse

/-- How the answer is written. -/
def shape : Shape DiscoverVariablesResponse :=
  .struct "DiscoverVariablesResponse"
    (.required "apiVersion" .text <|
     .required "kind" .text <|
     .required "status" Status.shape <|
     .worded "message" .text <|
     Message.many "variables" ClusterClassVariable.shape .done)
    (fun (version, kind, status, message, definitions, _) =>
      ⟨version, kind, status, message, definitions⟩)
    (fun r => (r.apiVersion, r.kind, r.status, r.message, r.definitions, ()))

/-- The answer with some definitions. -/
def success (definitions : List ClusterClassVariable) : DiscoverVariablesResponse :=
  ⟨Hook.apiVersion, Hook.discoverVariables.responseKind, .success, "", definitions⟩

/-- The same answer as a failure, without definitions. -/
def fail (r : DiscoverVariablesResponse) (message : String) : DiscoverVariablesResponse :=
  { r with status := .failure, message := message, definitions := [] }

end DiscoverVariablesResponse

end TopologyHooks
