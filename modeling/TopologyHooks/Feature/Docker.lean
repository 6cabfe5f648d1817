import TopologyHooks.Feature.Basic

/-!
# Node images on Docker

The image of a machine is the configured one, or the standard image for the version that the
cluster tells; when neither is known the machine stays as it is.
-/

set_option autoImplicit false

namespace TopologyHooks

namespace Feature

namespace NodeImage

/-- The repository of the standard images. -/
def repository : String := "kindest/node"

/-- The first version at some paths of what the cluster tells that is not empty. -/
def firstVersion (vars : Variables) : List (List String) → Except Error (Option String)
  | [] => .ok none
  | path :: rest =>
    match vars.get .text Builtins.variableName path with
    | .error e => .error e
    | .ok (some version) => if version == "" then firstVersion vars rest else .ok (some version)
    | .ok none => firstVersion vars rest

/-- The image for a configured image and a version. -/
def choose? (image : String) (version : Option String) : Option String :=
  if image == "" then version.map fun v => repository ++ ":" ++ v else some image

/-- Sets the image of a machine. -/
def configure (versions : List (List String)) (vars : Variables) (image : String)
    (spec : Docker.MachineSpec) : Except Error Docker.MachineSpec :=
  match firstVersion vars versions with
  | .error e => .error e
  | .ok version =>
    match choose? image version with
    | none => .ok spec
    | some chosen => .ok { spec with customImage := some chosen }

/-- A mutator that sets the image of machines, also while no image is configured. -/
def mutator (name : String) (source : VariableRef) (selector : TemplateKind → PatchSelector)
    (versions : List (List String)) : Mutator where
  name := name
  reads := source
  kind := .dockerMachine
  selector := selector .dockerMachine
  Input := String
  input := .text
  fallback := some ""
  change := fun ctx image => onSpec (configure versions ctx.vars image)

end NodeImage

/-- The images of machines on Docker. -/
def dockerImages : List Mutator :=
  [NodeImage.mutator "docker-custom-image-control-plane"
      (clusterConfig ["controlPlane", "docker", "customImage"]) .controlPlane
      [Builtins.controlPlaneVersion, Builtins.topologyVersion],
    NodeImage.mutator "docker-custom-image-workers" (workerConfig ["docker", "customImage"])
      .allWorkers [Builtins.deploymentVersion]]

end Feature

end TopologyHooks
