import TopologyHooks.Proofs.Lifecycle.MirrorDefault

/-!
# What a default mirror leaves alone

* `ClusterApi.Server.Patches` — an API server has a cluster either as before or with a merge patch
  in it, whatever it answers. `ClusterApi.Unmanaged` names the paths of which that can be said: the
  server writes some of the metadata itself.
* `MirrorDefault.frame_of_write` — a write keeps the variables of the cluster in their places, and
  what they lead to, except at and around the mirror; and it keeps all of the cluster outside its
  topology variables.
-/

set_option autoImplicit false

namespace TopologyHooks

namespace ClusterApi

/-- The members of the metadata that an API server writes itself. -/
def managedKeys : List String :=
  ["creationTimestamp", "deletionGracePeriodSeconds", "deletionTimestamp", "generation",
    "managedFields", "resourceVersion", "selfLink", "uid"]

/-- Whether a path parts from all metadata that an API server writes itself. -/
def Unmanaged (path : List String) : Prop :=
  ∀ key ∈ managedKeys, Json.Diverge ["metadata", key] path

instance (path : List String) : Decidable (Unmanaged path) := inferInstanceAs (Decidable (∀ _ ∈ _, _))

namespace Server

/-- Whether a server that is sent a merge patch of the cluster at a place has that cluster as before
or with the patch merged in, but for the metadata that it writes itself. Nothing is said about its
answer: a patch may be refused, or merged in and the answer lost. -/
def Patches (server : Server) (place : String) : Prop :=
  ∀ stored r, r.method = "PATCH" → r.uri = place → r.contentType = mergePatchType →
    ∃ cluster ∈ [stored, stored.mergePatch r.body],
      ∀ path, Unmanaged path → (server stored r).2.at? path = cluster.at? path

/-- A write leaves alone what stands outside the topology variables of a cluster. -/
theorem at?_written {server : Server} {stored : Json} {w : Write} {path : List String}
    (hserver : server.Patches (uri w.namespaceName w.name))
    (hfree : Json.ListFree variablesPath stored) (hpath : Json.Diverge variablesPath path)
    (hunmanaged : Unmanaged path) : (server.written stored w).at? path = stored.at? path := by
  unfold written
  cases hr : request w with
  | error e => rfl
  | ok r =>
    obtain rfl := eq_of_request_eq_ok hr
    obtain ⟨cluster, hcluster, hafter⟩ := hserver stored
      ⟨"PATCH", uri w.namespaceName w.name, mergePatchType, body w⟩ rfl rfl rfl
    refine (hafter path hunmanaged).trans ?_
    rcases List.mem_pair.1 hcluster with rfl | rfl
    · rfl
    · exact at?_mergePatch_body_of_diverge w hfree hpath

end Server

/-- The server that merges whatever it is sent for a place has the cluster there as before or with
the patch merged in. -/
theorem patches_merging (place : String) : (merging place).Patches place := by
  intro stored r hmethod huri htype
  refine ⟨stored.mergePatch r.body, List.mem_pair.2 (.inr rfl), fun path _ => ?_⟩
  unfold merging
  rw [if_pos ⟨hmethod, huri, htype⟩]

end ClusterApi

open ClusterApi

namespace MirrorDefault

variable {s : Settings} {w : Write} {bindings : List ClusterVariable}

/-- The name of a variable, and the patch that defines it. -/
def origin (v : ClusterVariable) : String × Option String := (v.name, v.definitionFrom)

/-- Giving a variable a value keeps every variable in its place, and may add one at the end. -/
theorem map_origin_replaceFirst (name : String) (value : Json) :
    ∀ bindings : List ClusterVariable, (replaceFirst name value bindings).map origin =
      bindings.map origin ++ if name ∈ bindings.map (·.name) then [] else [(name, none)]
  | [] => rfl
  | v :: rest => by
    rw [replaceFirst]
    by_cases hv : v.name = name
    · have hmem : name ∈ (v :: rest).map (·.name) := hv ▸ List.mem_cons_self
      rw [if_pos hv, if_pos hmem, List.append_nil]
      rfl
    · rw [if_neg hv, List.map_cons, map_origin_replaceFirst name value rest]
      simp only [List.map_cons, List.mem_cons, Ne.symm hv, false_or, List.cons_append]

/-- Filling in the mirror leaves alone what paths lead to that part from the mirror's. -/
theorem Fills.get_of_diverge {cluster value : Json} {vars : Variables} {α : Type}
    (h : Fills s cluster w bindings vars value)
    (hsingle : occurrences ClusterConfig.variableName bindings ≤ 1) (shape : Shape α)
    {name : String} {path : List String}
    (hpath : name = mirrorRef.name → Json.Diverge mirrorRef.path path) :
    (Variables.ofList w.bindings).get shape name path =
      (Variables.ofList bindings).get shape name path := by
  have hset : vars = (mirrorRef.set (ClusterConfig.Mirror.shape.toJson s.mirror)
      (.ofList bindings)).1 := (congrArg Prod.fst h.sets).symm
  rw [h.written, ofList_written hsingle h.sets h.valued, hset]
  exact Variables.get_set_of_diverge shape hpath

/-- What a write leaves alone, for a cluster whose topology variables have distinct names. Every
variable stays in its place with its name and its origin, and `clusterConfig` is added at the end
only if it was missing. Values at all paths are as they were, except those at or around the mirror.
At an API server, whatever stands outside the topology variables stays. -/
theorem frame_of_write {request : LifecycleRequest} {next : Except Error Unit → Plan HookResponse}
    (hcall : call s request = .write w next)
    (hvars : topologyVariables? request.cluster = some bindings)
    (hdistinct : (bindings.map (·.name)).Nodup) :
    w.bindings.map origin = bindings.map origin ++
      (if ClusterConfig.variableName ∈ bindings.map (·.name) then []
        else [(ClusterConfig.variableName, none)]) ∧
    (∀ (name : String) (path : List String),
      (name = mirrorRef.name → Json.Diverge mirrorRef.path path) →
      (Variables.ofList w.bindings).get .json name path =
        (Variables.ofList bindings).get .json name path) ∧
    ∀ (server : Server) (stored : Json) (path : List String),
      server.Patches (uri w.namespaceName w.name) → Json.ListFree variablesPath stored →
      Json.Diverge variablesPath path → Unmanaged path →
      (server.after stored (call s request)).at? path = stored.at? path := by
  obtain ⟨rfl, found, vars, value, hfills⟩ := exists_fills_of_call hcall
  obtain rfl : bindings = found := Option.some.inj (hvars.symm.trans hfills.found)
  refine ⟨?_, fun name path hpath => ?_, fun server stored path hserver hfree hpath hunmanaged => ?_⟩
  · rw [hfills.written]
    exact map_origin_replaceFirst _ value bindings
  · exact hfills.get_of_diverge (occurrences_le_one hdistinct) .json hpath
  · rw [hcall]
    exact Server.at?_written hserver hfree hpath hunmanaged

/-- A cluster that has settings of its own and a variable with the value null. -/
theorem frame_of_write_settings :
    let bindings : List ClusterVariable :=
      [⟨"workerConfig", .null, some "a"⟩,
        ⟨"clusterConfig", .obj [("kubernetesImageRepository", .str "own.example.com")], some "b"⟩]
    let request := requestFor [("variables", (Shape.list ClusterVariable.shape).toJson bindings)]
    let plan := call (settingsFor "mirror.example.com") request
    let written : List ClusterVariable :=
      [⟨"workerConfig", .null, some "a"⟩,
        ⟨"clusterConfig", .obj [("globalImageRegistryMirror",
          .obj [("url", .str "mirror.example.com")]),
          ("kubernetesImageRepository", .str "own.example.com")], some "b"⟩]
    (∀ client, plan.writes client = [⟨"default", "prod", written⟩]) ∧
      (Variables.ofList written).get .json "clusterConfig" ["kubernetesImageRepository"] =
        .ok (some (.str "own.example.com")) ∧
      ((merging (uri "default" "prod")).after request.cluster plan).at?
        ["spec", "topology", "class"] = some (.str "quick-start") := by
  intro bindings request plan written
  have hcall : plan = .write ⟨"default", "prod", written⟩
      (finish (settingsFor "mirror.example.com")) := by rfl
  have hvars : topologyVariables? request.cluster = some bindings := by rfl
  obtain ⟨-, hget, hserver⟩ := frame_of_write hcall hvars (by decide)
  refine ⟨fun client => by rw [hcall]; rfl, ?_, ?_⟩
  · exact hget "clusterConfig" ["kubernetesImageRepository"] fun _ => by decide
  · exact hserver _ request.cluster ["spec", "topology", "class"] (patches_merging _)
      (listFree_of_topologyVariables? hvars) (by decide) (by decide)

end MirrorDefault

end TopologyHooks
