import TopologyHooks.Feature.Catalog
import TopologyHooks.Proofs.Handler.Idempotence
import TopologyHooks.Proofs.Schema.Conforms
import TopologyHooks.Proofs.Variable.Resolution

/-!
# What mutators find in variables that conform to their schemas

* `SchemaProps.leads` — whether a path of a schema goes through objects only and ends in a schema
  with some property that does not allow null. It can be computed.
* `Mutator.lookup_of_suits` — a mutator finds in a conforming value what stands at its path, and
  finds nothing if nothing stands there.
* `Handler.lookup_of_conforms` — this holds of all mutators of the handlers of the extension and
  the schemas that these handlers advertise.
-/

set_option autoImplicit false

namespace TopologyHooks

/-! ## Along a path -/

/-- Whether a path goes through properties of objects and ends in a schema that passes a check and
does not allow null. -/
def SchemaProps.leads (check : SchemaProps → Bool) (schema : SchemaProps) : List String → Bool
  | [] => !decide (Json.null.Conforms schema) && check schema
  | key :: path =>
    schema.type == some "object" && (schema.property? key).any (leads check · path)

namespace Variables

/-- In a conforming value, either nothing stands at such a path, or something that conforms to the
schema at its end. -/
theorem descend_of_leads {check : SchemaProps → Bool} : ∀ {path : List String}
    {schema : SchemaProps} {v : Json}, schema.leads check path = true → v.Ordered →
    v.Conforms schema → ∀ here : List String,
    descend here v path = .ok none ∧ v.memberAt? path = none ∨
      ∃ x inner, descend here v path = .ok (some x) ∧ v.memberAt? path = some x ∧ x.Ordered ∧
        x.Conforms inner ∧ check inner = true
  | [], schema, v, h, ho, hv, here => by
    simp only [SchemaProps.leads, Bool.and_eq_true, Bool.not_eq_true', decide_eq_false_iff_not] at h
    have hnull : v ≠ .null := by
      rintro rfl
      exact h.1 hv
    have hfound : descend here v [] = .ok (some v) := by
      cases v <;> first | rfl | exact absurd rfl hnull
    exact .inr ⟨v, schema, hfound, rfl, ho, hv, h.2⟩
  | key :: path, schema, v, h, ho, hv, here => by
    simp only [SchemaProps.leads, Bool.and_eq_true, beq_iff_eq, Option.any_eq_true] at h
    obtain ⟨htype, property, hproperty, hpath⟩ := h
    obtain ⟨members, rfl⟩ := hv.eq_obj htype
    rw [descend, Json.memberAt?, Json.member?]
    cases hx : Assoc.get? key members with
    | none => exact .inl ⟨rfl, rfl⟩
    | some x =>
      exact descend_of_leads hpath ((Json.ordered_obj.1 ho).2 key x hx)
        (hv.member hx hproperty) (here ++ [key])

end Variables

namespace Mutator

/-- Whether a mutator asks only what a schema of its variable promises: its path leads to a schema
that its input fits. -/
def suits (m : Mutator) (schema : SchemaProps) : Bool := schema.leads m.input.fits m.reads.path

/-- Looking up a conforming value does not fail, and tells whether something stands at the path. -/
theorem lookup_of_suits {m : Mutator} {schema : SchemaProps} (h : m.suits schema = true) {v : Json}
    (ho : v.Ordered) (hv : v.Conforms schema) {vars : Variables}
    (hvars : vars.get? m.reads.name = some v) :
    m.lookup vars = .ok (v.memberAt? m.reads.path).isSome := by
  rw [lookup, VariableRef.get, Variables.get, Variables.valueAt, hvars]
  obtain ⟨hnone, hmember⟩ | ⟨x, inner, hfound, hmember, hxo, hx, hfits⟩ :=
    Variables.descend_of_leads h ho hv []
  · simp only [hnone, hmember]
    rfl
  · obtain ⟨a, ha⟩ := Shape.exists_reads_of_fits m.input hfits hxo hx
    simp only [hfound, ha.2, hmember]
    rfl

end Mutator

/-! ## Providers -/

namespace Handler

/-- Whether a mutator reads one of the two variables of a provider, and suits its schema. -/
def suited (cluster worker : SchemaProps) (m : Mutator) : Bool :=
  m.reads.name == ClusterConfig.variableName && m.suits cluster ||
    m.reads.name == workerConfigName && m.suits worker

/-- Whether all mutators of a provider suit the schemas that it advertises. -/
def allSuited {α β : Type} (cluster : Shape α) (worker : Shape β) (own : List Mutator) : Bool :=
  match cluster.advertised, worker.advertised with
  | .ok cluster, .ok worker => (Feature.shared ++ own).all (suited cluster worker)
  | _, _ => false

/-- All mutators for Docker suit the schemas that are advertised for it. -/
theorem allSuited_docker :
    allSuited Docker.Config.shape Docker.WorkerConfig.shape Feature.dockerImages = true := by
  decide +kernel

/-- All mutators for AWS suit the schemas that are advertised for it. -/
theorem allSuited_aws :
    allSuited Aws.Config.shape Aws.WorkerConfig.shape Feature.awsMachines = true := by
  decide +kernel

/-- The definitions of a provider are those of its two variables. -/
theorem definitions_of_ofProvider {α β : Type} {name : String} {cluster : Shape α}
    {worker : Shape β} {own : List Mutator} {registry : ObjectRegistry} {h : Handler}
    (hh : ofProvider name cluster worker own registry = .ok h) :
    ∃ c w, cluster.advertised = .ok c ∧ worker.advertised = .ok w ∧
      h.definitions = [⟨ClusterConfig.variableName, true, c⟩, ⟨workerConfigName, false, w⟩] := by
  cases hc : cluster.advertised with
  | error e => simp [ofProvider, VariableDefinition.ofSchema, hc] at hh
  | ok c =>
    cases hw : worker.advertised with
    | error e => simp [ofProvider, VariableDefinition.ofSchema, hc, hw] at hh
    | ok w =>
      refine ⟨c, w, rfl, rfl, ?_⟩
      simp only [ofProvider, VariableDefinition.ofSchema, hc, hw] at hh
      unfold Draft.build at hh
      split at hh
      · rw [← Except.ok.inj hh]
      · cases hh

/-- Every mutator of a provider reads a variable of which one definition is advertised, and suits
its schema. -/
theorem suits_of_ofProvider {α β : Type} {name : String} {cluster : Shape α} {worker : Shape β}
    {own : List Mutator} {registry : ObjectRegistry} {h : Handler}
    (hh : ofProvider name cluster worker own registry = .ok h)
    (hall : allSuited cluster worker own = true) {m : Mutator} (hm : m ∈ h.mutators) :
    (∃ d ∈ h.definitions, d.name = m.reads.name) ∧
      ∀ d ∈ h.definitions, d.name = m.reads.name → m.suits d.schema = true := by
  obtain ⟨c, w, hc, hw, hdefinitions⟩ := definitions_of_ofProvider hh
  rw [allSuited, hc, hw] at hall
  rw [mutators_of_ofProvider hh] at hm
  have hsuited : suited c w m = true := List.all_eq_true.1 hall m hm
  have hdistinct : ClusterConfig.variableName ≠ workerConfigName := by decide
  simp only [suited, Bool.or_eq_true, Bool.and_eq_true, beq_iff_eq] at hsuited
  rw [hdefinitions]
  simp only [List.mem_cons, List.not_mem_nil, or_false, forall_eq_or_imp, forall_eq,
    exists_eq_or_imp, exists_eq_left]
  obtain ⟨hname, hsuits⟩ | ⟨hname, hsuits⟩ := hsuited
  · rw [hname]
    exact ⟨.inl rfl, fun _ => hsuits, fun hsame => absurd hsame.symm hdistinct⟩
  · rw [hname]
    exact ⟨.inr rfl, fun hsame => absurd hsame hdistinct, fun _ => hsuits⟩

/-- Each mutator of a handler reads a declared variable and suits the schema of it. -/
theorem suits_of_mem {registry : ObjectRegistry} {h : Handler}
    (hh : docker registry = .ok h ∨ aws registry = .ok h) {m : Mutator} (hm : m ∈ h.mutators) :
    (∃ d ∈ h.definitions, d.name = m.reads.name) ∧
      ∀ d ∈ h.definitions, d.name = m.reads.name → m.suits d.schema = true := by
  obtain hdocker | haws := hh
  · exact suits_of_ofProvider hdocker allSuited_docker hm
  · exact suits_of_ofProvider haws allSuited_aws hm

/-- For every mutator of the handlers of the extension, the definition of its variable is
advertised, and looking up a value that conforms to the advertised schema does not fail and tells
whether the value has a member at the path of the mutator. -/
theorem lookup_of_conforms {registry : ObjectRegistry} {h : Handler}
    (hh : docker registry = .ok h ∨ aws registry = .ok h) (request : DiscoverVariablesRequest)
    {m : Mutator} (hm : m ∈ h.mutators) :
    (∃ d ∈ (h.discoverVariables request).definitions, d.name = m.reads.name) ∧
    ∀ d ∈ (h.discoverVariables request).definitions, d.name = m.reads.name →
      ∀ v : Json, v.Ordered → v.Conforms d.schema.openAPIV3Schema →
        ∀ vars : Variables, vars.get? m.reads.name = some v →
          m.lookup vars = .ok (v.memberAt? m.reads.path).isSome := by
  obtain ⟨⟨defined, hmem, hname⟩, hsuits⟩ := suits_of_mem hh hm
  constructor
  · exact ⟨defined.toClassVariable, List.mem_map_of_mem hmem, hname⟩
  · intro d hd hdname v hv hconforms vars hvars
    obtain ⟨definition, hdefinition, rfl⟩ := List.mem_map.1 hd
    exact Mutator.lookup_of_suits (hsuits definition hdefinition hdname) hv hconforms hvars

/-! ## A registry of images -/

namespace Registry

/-- The settings of a cluster with a registry of its own. -/
def settings : Json := .obj [("kubernetesImageRepository", .str "registry.example.com")]

/-- The variables of the cluster. -/
def vars : Variables := .ofList [⟨ClusterConfig.variableName, settings, none⟩]

/-- Whether the settings conform to the schema that is advertised for clusters on Docker. -/
def conform : Bool :=
  match Docker.Config.shape.advertised with
  | .ok schema => decide (settings.Conforms schema)
  | .error _ => false

end Registry

/-- The handler for Docker finds the registry. -/
theorem lookup_of_conforms_registry : ∃ h, docker .full = .ok h ∧ ∃ m ∈ h.mutators,
    ∃ d ∈ (h.discoverVariables .blank).definitions, d.name = m.reads.name ∧
      Registry.settings.Ordered ∧ Registry.settings.Conforms d.schema.openAPIV3Schema ∧
      Registry.vars.get? m.reads.name = some Registry.settings ∧
      m.lookup Registry.vars = .ok true := by
  obtain ⟨h, hh, -⟩ := Accounts.exists_docker
  obtain ⟨c, w, hc, -, hdefinitions⟩ := definitions_of_ofProvider hh
  have hconforms : Registry.settings.Conforms c := by
    -- the advertised schema is computed
    have hconform : Registry.conform = true := by decide +kernel
    rw [Registry.conform, hc] at hconform
    exact of_decide_eq_true hconform
  have hordered : Registry.settings.Ordered := by decide +kernel
  have hmutators : ∃ m ∈ h.mutators,
      m.reads = Feature.clusterConfig ["kubernetesImageRepository"] := by
    rw [mutators_of_ofProvider hh]
    exact ⟨_, List.mem_cons_self, rfl⟩
  obtain ⟨m, hm, hreads⟩ := hmutators
  have hname : m.reads.name = ClusterConfig.variableName := by rw [hreads]; rfl
  have hvars : Registry.vars.get? m.reads.name = some Registry.settings := by
    rw [hname]
    rfl
  have hd : VariableDefinition.toClassVariable ⟨ClusterConfig.variableName, true, c⟩ ∈
      (h.discoverVariables .blank).definitions := by
    refine List.mem_map_of_mem ?_
    rw [hdefinitions]
    exact List.mem_cons_self
  have hlookup := (lookup_of_conforms (.inl hh) .blank hm).2 _ hd hname.symm _ hordered hconforms
    _ hvars
  refine ⟨h, hh, m, hm, _, hd, hname.symm, hordered, hconforms, hvars, ?_⟩
  rw [hlookup, hreads]
  rfl

end Handler

end TopologyHooks
