import TopologyHooks.Proofs.Handler.Building
import TopologyHooks.Proofs.Schema.Accepted

/-!
# What handlers advertise

* `DiscoverVariablesResponse.readsBack` — an answer with definitions is read back from its JSON if
  the schemas in it are.
* `Handler.ofJson_discoverVariables` — so whoever reads the answer of a handler finds one
  definition for each that the handler was built from, and in it whatever a mutator reads.
-/

set_option autoImplicit false

namespace TopologyHooks

open Shape

/-! ## Answers -/

/-- Every status is read back as it was. -/
theorem Status.readsBack (s : Status) : shape.ReadsBack s :=
  readsBack_choice (by cases s <;> rfl)

/-- The schema of a variable is read back if what it holds is lawful. -/
theorem VariableSchema.readsBack {v : VariableSchema} (h : v.openAPIV3Schema.Lawful) :
    shape.ReadsBack v :=
  readsBack_record (by decide) rfl ⟨h.readsBack, trivial⟩

/-- The entry of a variable is read back if its schema is lawful. -/
theorem ClusterClassVariable.readsBack {v : ClusterClassVariable}
    (h : v.schema.openAPIV3Schema.Lawful) : shape.ReadsBack v :=
  readsBack_record (by decide) rfl
    ⟨readsBack_text _, readsBack_flag _, VariableSchema.readsBack h, trivial⟩

/-- An answer is read back if the schemas in it are. -/
theorem DiscoverVariablesResponse.readsBack {r : DiscoverVariablesResponse}
    (h : ∀ v ∈ r.definitions, v.schema.openAPIV3Schema.Lawful) : shape.ReadsBack r := by
  refine readsBack_record (by decide) rfl ?_
  simp only [Message.many, Fields.readsBack_required_iff, Fields.readsBack_worded_iff,
    Fields.readsBack_defaulted_iff, readsBack_list_iff]
  exact ⟨readsBack_text _, readsBack_text _, Status.readsBack _,
    fun v hv => ClusterClassVariable.readsBack (h v hv), trivial⟩

/-! ## Handlers -/

namespace Handler

variable {d : Draft} {registry : ObjectRegistry} {h : Handler}

/-- The answer of a handler that was built from accepted schemas is read back. -/
theorem readsBack_discoverVariables (hbuild : d.build registry = .ok h)
    (haccepted : ∀ definition ∈ d.definitions, Schema.Accepted definition.schema)
    (request : DiscoverVariablesRequest) :
    DiscoverVariablesResponse.shape.ReadsBack (h.discoverVariables request) := by
  obtain ⟨rfl, -⟩ := Draft.build_eq_ok_iff.1 hbuild
  refine DiscoverVariablesResponse.readsBack fun v hv => ?_
  obtain ⟨definition, hdefinition, rfl⟩ := List.mem_map.1 hv
  exact (haccepted definition hdefinition).lawful

/-- **What is read from the answer of a handler is what was checked when it was built.** It has one
definition for each that the handler was built from, in their order and under distinct names, and
the schema of the variable that a mutator reads has the path at which it reads it. -/
theorem ofJson_discoverVariables (hbuild : d.build registry = .ok h)
    (haccepted : ∀ definition ∈ d.definitions, Schema.Accepted definition.schema)
    (request : DiscoverVariablesRequest) :
    ∃ response, DiscoverVariablesResponse.shape.ofJson
        (DiscoverVariablesResponse.shape.toJson (h.discoverVariables request)) = .ok response ∧
      response = h.discoverVariables request ∧
      response.definitions = d.definitions.map VariableDefinition.toClassVariable ∧
      (response.definitions.map ClusterClassVariable.name).Nodup ∧
      ∀ m ∈ h.mutators, ∃ entry ∈ response.definitions, entry.name = m.reads.name ∧
        (entry.schema.openAPIV3Schema.propertyAt? m.reads.path).isSome = true := by
  have hback := readsBack_discoverVariables hbuild haccepted request
  obtain ⟨rfl, rfl⟩ := Draft.build_eq_ok_iff.1 hbuild
  have hvalid := Draft.fault?_eq_none_iff.1 h.sound
  refine ⟨_, hback.ofJson, rfl, rfl, ?_, fun m hm => ?_⟩
  · have hnames : (h.discoverVariables request).definitions.map ClusterClassVariable.name =
        h.definitions.map VariableDefinition.name := List.map_map
    rw [hnames]
    exact hvalid.distinct
  · obtain ⟨definition, hmem, hname, hpath⟩ := hvalid.declared m hm
    exact ⟨definition.toClassVariable, List.mem_map_of_mem hmem, hname, hpath⟩

namespace Advertised

/-- A general schema of an object in an object, with a title and a type that may be null. -/
def node : Json := .obj
  [("properties", .obj [("aws", .obj
     [("properties", .obj [("region", .obj
        [("minLength", Json.ofNat 1), ("type", .arr [.str "string", .str "null"])])]),
      ("type", .str "object")])]),
   ("title", .str "ClusterConfig"),
   ("type", .str "object")]

/-- The variable schema that it is narrowed to. -/
def schema : SchemaProps :=
  { SchemaProps.anything with
    type := some "object"
    properties := [("aws",
      { SchemaProps.anything with
        type := some "object"
        properties := [("region",
          { SchemaProps.anything with
            type := some "string"
            minLength := some ⟨1, by decide⟩ })] })] }

/-- The schema of the draft is accepted. -/
theorem accepted_schema : Schema.Accepted schema := ⟨node, by decide, by rfl⟩

/-- A mutator that reads a property of a property. -/
def mutator : Mutator :=
  { Draft.Refusal.mutator with reads := ⟨"clusterConfig", ["aws", "region"]⟩ }

/-- A draft with that mutator. -/
def draft : Draft where
  name := "advertised"
  definitions := [⟨"clusterConfig", true, schema⟩, ⟨"workerConfig", false, schema⟩]
  mutators := [mutator]

end Advertised

/-- The draft is built, and its answer is read back with both entries and the property that the
mutator reads. -/
theorem ofJson_discoverVariables_advertised :
    ∃ h, Advertised.draft.build .full = .ok h ∧ ∃ response,
      DiscoverVariablesResponse.shape.ofJson
        (DiscoverVariablesResponse.shape.toJson (h.discoverVariables .blank)) = .ok response ∧
      response.definitions.map ClusterClassVariable.name = ["clusterConfig", "workerConfig"] ∧
      ∃ entry ∈ response.definitions, entry.name = "clusterConfig" ∧
        (entry.schema.openAPIV3Schema.propertyAt? ["aws", "region"]).isSome = true := by
  have hsound : Advertised.draft.fault? .full = none := by rfl
  have hbuild : Advertised.draft.build .full = .ok ⟨Advertised.draft, .full, hsound⟩ :=
    Draft.build_eq_ok_iff.2 ⟨rfl, rfl⟩
  have haccepted : ∀ definition ∈ Advertised.draft.definitions,
      Schema.Accepted definition.schema := by
    simp [Advertised.draft, Advertised.accepted_schema]
  obtain ⟨response, hread, -, hdefinitions, -, hmutators⟩ :=
    ofJson_discoverVariables hbuild haccepted .blank
  exact ⟨_, hbuild, response, hread, by rw [hdefinitions]; rfl,
    hmutators Advertised.mutator List.mem_cons_self⟩

end Handler

end TopologyHooks
