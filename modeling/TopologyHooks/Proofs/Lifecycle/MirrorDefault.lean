import TopologyHooks.Lifecycle.MirrorDefault
import TopologyHooks.Proofs.Lifecycle.Server
import TopologyHooks.Proofs.Variable.Update

/-!
# Clusters after their registry mirror was set by default

* `MirrorDefault.Finds` — what the handler makes of a cluster that it does not refuse, with the
  three ways to get there; `MirrorDefault.Does` — the same for everything that it does.
* `MirrorDefault.Fills` — a cluster that lacks the mirror, and the write that fills it in. Whether
  the value counts that goes to the first variable of a name, hangs on how often the name occurs
  (`MirrorDefault.ofList_replaceFirst`, `MirrorDefault.ofList_replaceFirst_of_repeated`).
* `MirrorDefault.mirror?_after` — after a call that succeeds, a cluster with topology variables has
  the mirror that it had before, or else the default one. A cluster without topology variables stays
  as it is, and has none (`MirrorDefault.not_mirror?_after`).
-/

set_option autoImplicit false

namespace TopologyHooks

open ClusterApi

namespace MirrorDefault

variable {s : Settings} {mirror : ClusterConfig.Mirror} {cluster value : Json} {name : String}
  {bindings : List ClusterVariable}

/-! ## Replacing one variable -/

/-- How often a name occurs in a list of variables. -/
def occurrences (name : String) (bindings : List ClusterVariable) : Nat :=
  (bindings.map (·.name)).count name

/-- A variable of the name in front is one more occurrence. -/
theorem occurrences_cons_self {v : ClusterVariable} (h : v.name = name) :
    occurrences name (v :: bindings) = occurrences name bindings + 1 := by
  unfold occurrences
  rw [List.map_cons, h, List.count_cons_self]

/-- A variable of another name in front is no occurrence. -/
theorem occurrences_cons_of_ne {v : ClusterVariable} (h : v.name ≠ name) :
    occurrences name (v :: bindings) = occurrences name bindings := by
  unfold occurrences
  rw [List.map_cons, List.count_cons_of_ne h]

/-- Among variables with distinct names, no name occurs more than once. -/
theorem occurrences_le_one (h : (bindings.map (·.name)).Nodup) : occurrences name bindings ≤ 1 :=
  List.nodup_iff_count_le_one.1 h name

/-- Replacing a variable leaves what is found under other names alone. -/
theorem get?_ofList_replaceFirst_of_ne {other : String} (hne : name ≠ other) :
    ∀ bindings : List ClusterVariable,
      (Variables.ofList (replaceFirst name value bindings)).get? other =
        (Variables.ofList bindings).get? other
  | [] => by
    rw [replaceFirst, Variables.get?_ofList_cons, if_neg hne, Option.or_none]
  | v :: rest => by
    rw [replaceFirst]
    split
    · rename_i hv
      have hv' : v.name ≠ other := hv ▸ hne
      rw [Variables.get?_ofList_cons, Variables.get?_ofList_cons, if_neg hv', if_neg hv']
    · rw [Variables.get?_ofList_cons, Variables.get?_ofList_cons,
        get?_ofList_replaceFirst_of_ne hne rest]

/-- A variable that is not repeated has the value that it was given. -/
theorem get?_ofList_replaceFirst_self : ∀ {bindings : List ClusterVariable},
    occurrences name bindings ≤ 1 →
      (Variables.ofList (replaceFirst name value bindings)).get? name = some value
  | [], _ => by
    rw [replaceFirst, Variables.get?_ofList_cons, if_pos rfl]
    rfl
  | v :: rest, h => by
    rw [replaceFirst]
    split
    · rename_i hv
      rw [occurrences_cons_self hv] at h
      have hrest : name ∉ rest.map (·.name) := List.count_eq_zero.1 (by unfold occurrences at h; omega)
      rw [Variables.get?_ofList_cons, Variables.get?_ofList_eq_none_iff.2 hrest, if_pos hv]
      rfl
    · rename_i hv
      rw [occurrences_cons_of_ne hv] at h
      rw [Variables.get?_ofList_cons, get?_ofList_replaceFirst_self h]
      rfl

/-- A repeated variable keeps its value: the one that counts stands behind the one that was given
the new value. -/
theorem get?_ofList_replaceFirst_of_repeated : ∀ {bindings : List ClusterVariable},
    1 < occurrences name bindings →
      (Variables.ofList (replaceFirst name value bindings)).get? name =
        (Variables.ofList bindings).get? name
  | [], h => absurd h (Nat.not_lt_zero 1)
  | v :: rest, h => by
    rw [replaceFirst]
    split
    · rename_i hv
      rw [occurrences_cons_self hv] at h
      have hrest : (Variables.ofList rest).get? name ≠ none := by
        rw [Ne, Variables.get?_ofList_eq_none_iff, not_not]
        exact List.count_pos_iff.1 (Nat.lt_of_succ_lt_succ h)
      obtain ⟨x, hx⟩ := Option.ne_none_iff_exists'.1 hrest
      rw [Variables.get?_ofList_cons, Variables.get?_ofList_cons, hx]
      rfl
    · rename_i hv
      rw [occurrences_cons_of_ne hv] at h
      rw [Variables.get?_ofList_cons, Variables.get?_ofList_cons,
        get?_ofList_replaceFirst_of_repeated h]

/-- Giving a variable a value changes that variable alone, if it is not repeated. -/
theorem ofList_replaceFirst (h : occurrences name bindings ≤ 1) :
    Variables.ofList (replaceFirst name value bindings) =
      (Variables.ofList bindings).insert name value := by
  apply Dictionary.ext_get?
  intro other
  rw [Dictionary.get?_insert]
  split
  · rename_i hother
    exact hother ▸ get?_ofList_replaceFirst_self h
  · rename_i hother
    exact get?_ofList_replaceFirst_of_ne hother bindings

/-- Giving a repeated variable a value changes nothing. -/
theorem ofList_replaceFirst_of_repeated (h : 1 < occurrences name bindings) :
    Variables.ofList (replaceFirst name value bindings) = Variables.ofList bindings := by
  apply Dictionary.ext_get?
  intro other
  by_cases hother : name = other
  · exact hother ▸ get?_ofList_replaceFirst_of_repeated h
  · exact get?_ofList_replaceFirst_of_ne hother bindings

/-- Replacing a variable by the same value again changes nothing. -/
theorem replaceFirst_replaceFirst : ∀ bindings : List ClusterVariable,
    replaceFirst name value (replaceFirst name value bindings) = replaceFirst name value bindings
  | [] => if_pos rfl
  | v :: rest => by
    by_cases hv : v.name = name
    · rw [replaceFirst, if_pos hv, replaceFirst, if_pos hv]
    · rw [replaceFirst, if_neg hv, replaceFirst, if_neg hv, replaceFirst_replaceFirst rest]

/-! ## What the handler does -/

/-- What the handler makes of a cluster that it does not refuse: the variables that it writes, if
it writes any. -/
inductive Finds (mirror : ClusterConfig.Mirror) (cluster : Json) :
    Option (List ClusterVariable) → Prop
  | bare (h : cluster.at? variablesPath = none) : Finds mirror cluster none
  | mirrored {bindings : List ClusterVariable} {found : ClusterConfig.Mirror}
      (hvars : topologyVariables? cluster = some bindings)
      (hget : mirrorRef.get ClusterConfig.Mirror.shape (.ofList bindings) = .ok (some found)) :
      Finds mirror cluster none
  | lacking {bindings : List ClusterVariable} {vars : Variables} {value : Json}
      (hvars : topologyVariables? cluster = some bindings)
      (hget : mirrorRef.get ClusterConfig.Mirror.shape (.ofList bindings) = .ok none)
      (hset : mirrorRef.set (ClusterConfig.Mirror.shape.toJson mirror) (.ofList bindings) =
        (vars, none))
      (hvalue : vars.get? ClusterConfig.variableName = some value) :
      Finds mirror cluster (some (replaceFirst ClusterConfig.variableName value bindings))

/-- What the search for a default comes to is one of the cases of finding it. -/
theorem finds_of_defaulted? {o : Option (List ClusterVariable)}
    (h : defaulted? mirror cluster = .ok o) : Finds mirror cluster o := by
  unfold defaulted? at h
  split at h
  · rename_i hraw
    cases h
    exact .bare hraw
  · rename_i raw hraw
    split at h
    · cases h
    · rename_i bindings hbindings
      have hvars := topologyVariables?_eq_some_iff.2 ⟨raw, hraw, hbindings⟩
      dsimp only at h
      split at h
      · cases h
      · rename_i found hget
        cases h
        exact .mirrored hvars hget
      · rename_i hget
        split at h
        · cases h
        · rename_i vars hset
          split at h
          · cases h
          · rename_i value hvalue
            cases h
            exact .lacking hvars hget hset hvalue

/-- In each of these cases, the search for a default comes to the same. -/
theorem defaulted?_of_finds {o : Option (List ClusterVariable)} (h : Finds mirror cluster o) :
    defaulted? mirror cluster = .ok o := by
  unfold defaulted?
  rw [show ["spec", "topology", "variables"] = variablesPath from rfl]
  cases h with
  | bare hraw => rw [hraw]
  | mirrored hvars hget =>
    obtain ⟨raw, hraw, hread⟩ := topologyVariables?_eq_some_iff.1 hvars
    simp only [hraw, hread, hget]
  | lacking hvars hget hset hvalue =>
    obtain ⟨raw, hraw, hread⟩ := topologyVariables?_eq_some_iff.1 hvars
    simp only [hraw, hread, hget, hset, hvalue]

/-- What the handler does on a request. -/
inductive Does (s : Settings) (cluster : Json) : Plan HookResponse → Prop
  | nameless (hname : textAt? cluster ["metadata", "name"] = none) :
      Does s cluster (.answer (.failure hook "cluster has no metadata.name"))
  | refuse {e : Error} (hrefused : defaulted? s.mirror cluster = .error e) :
      Does s cluster (.answer (.failure hook e.message))
  | agree {name : String} (hname : textAt? cluster ["metadata", "name"] = some name)
      (hfinds : Finds s.mirror cluster none) : Does s cluster (.answer (.success hook))
  | write {name : String} {bindings : List ClusterVariable}
      (hname : textAt? cluster ["metadata", "name"] = some name)
      (hfinds : Finds s.mirror cluster (some bindings)) :
      Does s cluster (.write
        ⟨(textAt? cluster ["metadata", "namespace"]).getD "default", name, bindings⟩ (finish s))

/-- A call of the handler is one of the cases of what it does. -/
theorem does_call (s : Settings) (request : LifecycleRequest) :
    Does s request.cluster (call s request) := by
  unfold call
  dsimp only
  split
  · rename_i hname
    exact .nameless hname
  · rename_i name hname
    split
    · rename_i e hrefused
      exact .refuse hrefused
    · rename_i hfinds
      exact .agree hname (finds_of_defaulted? hfinds)
    · rename_i bindings hfinds
      exact .write hname (finds_of_defaulted? hfinds)

/-- A cluster that lacks the mirror, and the write that fills it in: the variables that were found,
the ones after the mirror was set, and the value of the one that is written. -/
structure Fills (s : Settings) (cluster : Json) (w : Write) (bindings : List ClusterVariable)
    (vars : Variables) (value : Json) : Prop where
  name : textAt? cluster ["metadata", "name"] = some w.name
  space : (textAt? cluster ["metadata", "namespace"]).getD "default" = w.namespaceName
  found : topologyVariables? cluster = some bindings
  lacks : mirrorRef.get ClusterConfig.Mirror.shape (.ofList bindings) = .ok none
  sets : mirrorRef.set (ClusterConfig.Mirror.shape.toJson s.mirror) (.ofList bindings) = (vars, none)
  valued : vars.get? ClusterConfig.variableName = some value
  written : w.bindings = replaceFirst ClusterConfig.variableName value bindings

/-- A call that begins with a write answers to the outcome of that, and the cluster lacks the
mirror. -/
theorem exists_fills_of_call {request : LifecycleRequest} {w : Write}
    {next : Except Error Unit → Plan HookResponse} (h : call s request = .write w next) :
    next = finish s ∧ ∃ bindings vars value, Fills s request.cluster w bindings vars value := by
  have hdoes := does_call s request
  rw [h] at hdoes
  cases hdoes with
  | write hname hfinds =>
    cases hfinds with
    | lacking hvars hget hset hvalue =>
      exact ⟨rfl, _, _, _, hname, rfl, hvars, hget, hset, hvalue, rfl⟩

/-- A cluster that lacks the mirror gets the write that fills it in. -/
theorem Fills.call_eq {request : LifecycleRequest} {w : Write} {vars : Variables}
    (h : Fills s request.cluster w bindings vars value) : call s request = .write w (finish s) := by
  have hfinds := defaulted?_of_finds (.lacking h.found h.lacks h.sets h.valued)
  rw [← h.written] at hfinds
  unfold call
  simp only [h.name, hfinds, h.space]

/-- A cluster with a mirror is left alone. -/
theorem call_of_mirrored {request : LifecycleRequest} {found : ClusterConfig.Mirror}
    (hname : textAt? request.cluster ["metadata", "name"] = some name)
    (hvars : topologyVariables? request.cluster = some bindings)
    (hget : mirrorRef.get ClusterConfig.Mirror.shape (.ofList bindings) = .ok (some found)) :
    call s request = .answer (.success hook) := by
  have hfinds : defaulted? s.mirror request.cluster = .ok none :=
    defaulted?_of_finds (.mirrored hvars hget)
  unfold call
  simp only [hname, hfinds]

/-- The answer to an error is a failure. -/
theorem status_answer_error (s : Settings) (e : Error) : (answer s (.error e)).status = .failure := by
  unfold answer
  dsimp only
  split
  · unfold HookResponse.withRetryAfter
    split
    · rfl
    · rfl
  · rfl

/-- A write that is answered with success went well. -/
theorem eq_ok_of_status_answer {outcome : Except Error Unit}
    (h : (answer s outcome).status = .success) : outcome = .ok () := by
  cases outcome with
  | ok u => rfl
  | error e =>
    rw [status_answer_error] at h
    cases h

/-! ## The mirror of a cluster -/

/-- The registry mirror that the topology variables of a cluster lead to. -/
def mirror? (cluster : Json) : Option Json :=
  (topologyVariables? cluster).bind fun bindings =>
    match mirrorRef.get .json (.ofList bindings) with
    | .ok found => found
    | .error _ => none

/-- Where a cluster is found that says its name and namespace. -/
def placeOf (cluster : Json) (name : String) : String :=
  uri ((textAt? cluster ["metadata", "namespace"]).getD "default") name

/-- A cluster names a value for its mirror exactly if this stands there in its variables. -/
theorem mirror?_eq_some_iff (hvars : topologyVariables? cluster = some bindings) :
    mirror? cluster = some value ↔
      (Variables.ofList bindings).valueAt mirrorRef.name mirrorRef.path = .ok (some value) := by
  have hget : mirrorRef.get .json (.ofList bindings) = .ok (some value) ↔
      (Variables.ofList bindings).valueAt mirrorRef.name mirrorRef.path = .ok (some value) := by
    unfold VariableRef.get
    simp only [Variables.get_eq_some_iff, Shape.ofJson_json, Except.ok.injEq, exists_eq_right]
  rw [← hget]
  unfold mirror?
  rw [hvars, Option.bind_some]
  cases mirrorRef.get .json (Variables.ofList bindings) with
  | ok found => simp
  | error e => simp

/-- What is written is what was set, if the variable is not repeated. -/
theorem ofList_written {vars : Variables}
    (hsingle : occurrences ClusterConfig.variableName bindings ≤ 1)
    (hset : mirrorRef.set (ClusterConfig.Mirror.shape.toJson mirror) (.ofList bindings) =
      (vars, none))
    (hvalue : vars.get? ClusterConfig.variableName = some value) :
    Variables.ofList (replaceFirst ClusterConfig.variableName value bindings) = vars := by
  rw [ofList_replaceFirst hsingle]
  apply Dictionary.ext_get?
  intro other
  rw [Dictionary.get?_insert]
  split
  · rename_i hother
    exact hother ▸ hvalue.symm
  · rename_i hother
    symm
    calc vars.get? other
        = (mirrorRef.set (ClusterConfig.Mirror.shape.toJson mirror)
            (.ofList bindings)).1.get? other := by rw [hset]
      _ = (Variables.ofList bindings).get? other := Variables.get?_set_of_ne (Ne.symm hother)

/-- The variables that are written lead to the default mirror. -/
theorem valueAt_replaceFirst {vars : Variables}
    (hsingle : occurrences ClusterConfig.variableName bindings ≤ 1)
    (hset : mirrorRef.set (ClusterConfig.Mirror.shape.toJson mirror) (.ofList bindings) =
      (vars, none))
    (hvalue : vars.get? ClusterConfig.variableName = some value) :
    (Variables.ofList (replaceFirst ClusterConfig.variableName value bindings)).valueAt
      mirrorRef.name mirrorRef.path = .ok (some (ClusterConfig.Mirror.shape.toJson mirror)) := by
  rw [ofList_written hsingle hset hvalue]
  exact Variables.valueAt_set hset nofun

/-- Where a mirror can be read, the cluster names it. -/
theorem mirror?_of_mirrored {found : ClusterConfig.Mirror}
    (hvars : topologyVariables? cluster = some bindings)
    (hget : mirrorRef.get ClusterConfig.Mirror.shape (.ofList bindings) = .ok (some found)) :
    ∃ x, mirror? cluster = some x := by
  obtain ⟨x, hx, -⟩ := Variables.get_eq_some_iff.1 hget
  exact ⟨x, (mirror?_eq_some_iff hvars).2 hx⟩

/-- Where no mirror is read, the cluster names none. -/
theorem mirror?_of_lacking (hvars : topologyVariables? cluster = some bindings)
    (hget : mirrorRef.get ClusterConfig.Mirror.shape (.ofList bindings) = .ok none) :
    mirror? cluster = none := by
  have hlacks := Variables.get_eq_none_iff.1 hget
  apply Option.eq_none_iff_forall_ne_some.2
  intro x hx
  rw [(mirror?_eq_some_iff hvars).1 hx] at hlacks
  cases hlacks

/-- After a call that succeeds, at an API server that holds the very cluster of the request: a
cluster without topology variables is as before, and any other one has the mirror that it had, or
else the default one. -/
theorem mirror?_after {server : Server} {request : LifecycleRequest}
    (hname : textAt? request.cluster ["metadata", "name"] = some name)
    (hserver : server.Merges (placeOf request.cluster name))
    (hdistinct : ∀ bindings, topologyVariables? request.cluster = some bindings →
      (bindings.map (·.name)).Nodup)
    (hsuccess : (server.answer request.cluster (call s request)).status = .success) :
    let after := server.after request.cluster (call s request)
    (request.cluster.at? variablesPath = none → after = request.cluster) ∧
    (request.cluster.at? variablesPath ≠ none → mirror? after =
      some ((mirror? request.cluster).getD (ClusterConfig.Mirror.shape.toJson s.mirror))) := by
  have hdoes := does_call s request
  generalize call s request = plan at hdoes hsuccess ⊢
  generalize request.cluster = cluster at *
  intro after
  cases hdoes with
  | nameless _ => cases hsuccess
  | refuse _ => cases hsuccess
  | agree _ hfinds =>
    refine ⟨fun _ => rfl, fun hvariables => ?_⟩
    cases hfinds with
    | bare hbare => exact absurd hbare hvariables
    | mirrored hvars hget =>
      obtain ⟨x, hx⟩ := mirror?_of_mirrored hvars hget
      show mirror? cluster = _
      rw [hx]
      rfl
  | @write name' written hname' hfinds =>
    -- the write names the cluster of the request, which is the one that the server holds
    obtain rfl : name = name' := Option.some.inj (hname.symm.trans hname')
    have hafter : topologyVariables? after = some written :=
      Server.topologyVariables?_written hserver (eq_ok_of_status_answer hsuccess)
    clear_value after
    cases hfinds with
    | @lacking bindings vars value hvars hget hset hvalue =>
      obtain ⟨raw, hraw, -⟩ := topologyVariables?_eq_some_iff.1 hvars
      refine ⟨fun hbare => ?_, fun _ => ?_⟩
      · rw [hbare] at hraw
        cases hraw
      · rw [mirror?_of_lacking hvars hget]
        exact (mirror?_eq_some_iff hafter).2
          (valueAt_replaceFirst (occurrences_le_one (hdistinct _ hvars)) hset hvalue)

/-- A request about a cluster whose topology has some members besides its class. -/
def requestFor (members : List (String × Json)) : LifecycleRequest where
  apiVersion := Hook.apiVersion
  kind := hook.requestKind
  settings := ∅
  cluster := .obj
    [("metadata", .obj [("name", .str "prod")]),
      ("spec", .obj [("topology", .obj (("class", .str "quick-start") :: members))])]
  fromKubernetesVersion := none
  toKubernetesVersion := none
  kubernetesVersion := none

/-- The settings with a mirror. -/
def settingsFor (url : String) : Settings := ⟨⟨url⟩, ⟨15, by decide⟩⟩

/-- A cluster with an empty list of topology variables gets the default mirror. -/
theorem mirror?_after_listed :
    let request := requestFor [("variables", .arr [])]
    let plan := call (settingsFor "mirror.example.com") request
    let server := merging (placeOf request.cluster "prod")
    (server.answer request.cluster plan).status = .success ∧
      mirror? (server.after request.cluster plan) =
        some (.obj [("url", .str "mirror.example.com")]) := by
  intro request plan server
  have hsuccess : (server.answer request.cluster plan).status = .success := by decide +kernel
  have hdistinct : ∀ bindings, topologyVariables? request.cluster = some bindings →
      (bindings.map (·.name)).Nodup := by
    intro bindings hvars
    obtain rfl : [] = bindings := Option.some.inj hvars
    exact List.nodup_nil
  exact ⟨hsuccess, (mirror?_after rfl (merges_merging _) hdistinct hsuccess).2 nofun⟩

/-- A cluster whose topology has no list of variables is left without a mirror by a call that
succeeds. -/
theorem not_mirror?_after : ¬ ∀ (s : Settings) (server : Server) (request : LifecycleRequest)
    (name : String) (topology : List (String × Json)),
    textAt? request.cluster ["metadata", "name"] = some name →
    request.cluster.at? ["spec", "topology"] = some (.obj topology) →
    server.Merges (placeOf request.cluster name) →
    (∀ bindings, topologyVariables? request.cluster = some bindings →
      (bindings.map (·.name)).Nodup) →
    (server.answer request.cluster (call s request)).status = .success →
    mirror? (server.after request.cluster (call s request)) =
      some ((mirror? request.cluster).getD (ClusterConfig.Mirror.shape.toJson s.mirror)) := by
  intro h
  have hmirror := h (settingsFor "mirror.example.com") (merging (uri "default" "prod"))
    (requestFor []) "prod" [("class", .str "quick-start")] rfl rfl (merges_merging _) nofun rfl
  cases hmirror

end MirrorDefault

end TopologyHooks
