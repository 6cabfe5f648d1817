import TopologyHooks.Message.Status

/-!
# Where an object stands

* `HolderReference` — the object that refers to a template, and the field in which it does.
* `PatchSelector` — which templates a patch applies to: their version and kind, and the places
  where they may stand.
-/

set_option autoImplicit false

namespace TopologyHooks

/-- The object that refers to a template. -/
structure HolderReference where
  apiVersion : String
  kind : String
  namespaceName : String
  name : String
  fieldPath : String
  deriving DecidableEq

/-- How a holder is written. -/
def HolderReference.shape : Shape HolderReference :=
  .struct "HolderReference"
    (.required "apiVersion" .text <|
     .required "kind" .text <|
     .defaulted "namespace" "" .text <|
     .defaulted "name" "" .text <|
     .required "fieldPath" .text .done)
    (fun (version, kind, space, name, path, _) => ⟨version, kind, space, name, path⟩)
    (fun h => (h.apiVersion, h.kind, h.namespaceName, h.name, h.fieldPath, ()))

/-- Patterns for classes of machine deployments. -/
structure ClassSelector where
  names : List String
  deriving DecidableEq

/-- How patterns for classes are written. -/
def ClassSelector.shape : Shape ClassSelector :=
  .struct "MachineDeploymentClassSelector" (Message.many "names" .text .done)
    (fun (names, _) => ⟨names⟩) (fun s => (s.names, ()))

/-- The places where a template may stand. -/
structure Places where
  infrastructureCluster : Bool
  controlPlane : Bool
  machineDeploymentClass : Option ClassSelector
  deriving DecidableEq

/-- No place at all. -/
def Places.nowhere : Places := ⟨false, false, none⟩

/-- How places are written. -/
def Places.shape : Shape Places :=
  .struct "PatchSelectorMatch"
    (.defaulted "infrastructureCluster" false .flag <|
     .defaulted "controlPlane" false .flag <|
     .optional "machineDeploymentClass" ClassSelector.shape .done)
    (fun (cluster, plane, cls, _) => ⟨cluster, plane, cls⟩)
    (fun p => (p.infrastructureCluster, p.controlPlane, p.machineDeploymentClass, ()))

/-- Which templates a patch applies to. -/
structure PatchSelector where
  apiVersion : String
  kind : String
  matchResources : Places
  deriving DecidableEq

/-- How a selector is written. -/
def PatchSelector.shape : Shape PatchSelector :=
  .struct "PatchSelector"
    (.required "apiVersion" .text <|
     .required "kind" .text <|
     .defaulted "matchResources" Places.nowhere Places.shape .done)
    (fun (version, kind, places, _) => ⟨version, kind, places⟩)
    (fun s => (s.apiVersion, s.kind, s.matchResources, ()))

end TopologyHooks
