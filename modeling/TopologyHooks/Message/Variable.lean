import TopologyHooks.Message.Status
import TopologyHooks.Schema.Props

/-!
# Variables in messages

* `ClusterVariable` — a variable with its value.
* `ClusterClassVariable` — the definition of a variable, with the schema of its values.
-/

set_option autoImplicit false

namespace TopologyHooks

/-- A variable with its value. -/
structure ClusterVariable where
  name : String
  value : Json
  /-- The patch that defines the variable, where several do. -/
  definitionFrom : Option String
  deriving DecidableEq

/-- How a variable is written. -/
def ClusterVariable.shape : Shape ClusterVariable :=
  .struct "ClusterVariable"
    (.required "name" .text <|
     .defaulted "value" .null .json <|
     .optional "definitionFrom" .text .done)
    (fun (name, value, source, _) => ⟨name, value, source⟩)
    (fun v => (v.name, v.value, v.definitionFrom, ()))

/-- The schema of the values of a variable. -/
structure VariableSchema where
  openAPIV3Schema : SchemaProps

/-- How the schema of a variable is written. -/
def VariableSchema.shape : Shape VariableSchema :=
  .struct "VariableSchema" (.required "openAPIV3Schema" SchemaProps.shape .done)
    (fun (s, _) => ⟨s⟩) (fun v => (v.openAPIV3Schema, ()))

/-- The definition of a variable. -/
structure ClusterClassVariable where
  name : String
  required : Bool
  schema : VariableSchema

/-- How the definition of a variable is written. -/
def ClusterClassVariable.shape : Shape ClusterClassVariable :=
  .struct "ClusterClassVariable"
    (.required "name" .text <|
     .required "required" .flag <|
     .required "schema" VariableSchema.shape .done)
    (fun (name, required, schema, _) => ⟨name, required, schema⟩)
    (fun v => (v.name, v.required, v.schema, ()))

end TopologyHooks
