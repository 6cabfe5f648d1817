import TopologyHooks.Proofs.Lifecycle.MirrorDefault
import TopologyHooks.Proofs.Variable.Obstacle

/-!
# What the handler of default mirrors asks of a cluster

* `MirrorDefault.Malformed`, `MirrorDefault.Mirrored`, `MirrorDefault.Lacking` — what the topology
  variables of a cluster can say about its registry mirror, in terms of the cluster alone. With the
  clusters that have no topology variables these are all (`MirrorDefault.cases_of_cluster`), and the
  handler tells them apart (`MirrorDefault.exists_error_defaulted?_iff`,
  `MirrorDefault.defaulted?_eq_none_iff`, `MirrorDefault.exists_some_defaulted?_iff`).
* `MirrorDefault.call_discipline` — when the handler writes, how it answers to every outcome of the
  write, and when it asks to be called again.
-/

set_option autoImplicit false

namespace TopologyHooks

open ClusterApi

namespace MirrorDefault

variable {s : Settings} {mirror : ClusterConfig.Mirror} {cluster x : Json}
  {bindings : List ClusterVariable}

/-! ## Clusters -/

/-- Whether a cluster has a name that is a text. -/
def Named (cluster : Json) : Prop := ∃ name, cluster.at? ["metadata", "name"] = some (.str name)

/-- Whether a value other than null stands for the mirror in the variables of a cluster. -/
def Names (cluster x : Json) : Prop :=
  ∃ bindings root, topologyVariables? cluster = some bindings ∧
    (Variables.ofList bindings).get? ClusterConfig.variableName = some root ∧
    root.member? "globalImageRegistryMirror" = some x ∧ x ≠ .null

/-- Whether a cluster names a mirror. -/
def Mirrored (cluster : Json) : Prop :=
  ∃ x found, Names cluster x ∧ ClusterConfig.Mirror.shape.ofJson x = .ok found

/-- Whether the variables of a cluster make no sense: they cannot be read, no path leads into
`clusterConfig`, or what stands for the mirror is none. -/
inductive Malformed (cluster : Json) : Prop
  | unreadable (hthere : cluster.at? variablesPath ≠ none)
      (hread : topologyVariables? cluster = none)
  | config {bindings : List ClusterVariable} {root : Json}
      (hvars : topologyVariables? cluster = some bindings)
      (hroot : (Variables.ofList bindings).get? ClusterConfig.variableName = some root)
      (himpassable : root.Impassable)
  | mirror {x : Json} (hnames : Names cluster x)
      (hread : ∀ found, ClusterConfig.Mirror.shape.ofJson x ≠ .ok found)

/-- Whether the variables of a cluster have a place for a mirror in which there is none. -/
def Lacking (cluster : Json) : Prop :=
  ∃ bindings, topologyVariables? cluster = some bindings ∧
    (∀ root, (Variables.ofList bindings).get? ClusterConfig.variableName = some root →
      ¬ root.Impassable) ∧
    ∀ x, ¬ Names cluster x

/-- A cluster has no topology variables, or they make no sense, name a mirror, or lack one. -/
theorem cases_of_cluster (cluster : Json) : cluster.at? variablesPath = none ∨
    Malformed cluster ∨ Mirrored cluster ∨ Lacking cluster := by
  by_cases hthere : cluster.at? variablesPath = none
  · exact .inl hthere
  refine .inr ?_
  cases hvars : topologyVariables? cluster with
  | none => exact .inl (.unreadable hthere hvars)
  | some bindings =>
    by_cases hroot : ∃ root,
        (Variables.ofList bindings).get? ClusterConfig.variableName = some root ∧ root.Impassable
    · obtain ⟨root, hroot, himpassable⟩ := hroot
      exact .inl (.config hvars hroot himpassable)
    by_cases hnames : ∃ x, Names cluster x
    · obtain ⟨x, hnames⟩ := hnames
      cases hread : ClusterConfig.Mirror.shape.ofJson x with
      | ok found => exact .inr (.inl ⟨x, found, hnames, hread⟩)
      | error f => exact .inl (.mirror hnames fun found h => by rw [hread] at h; cases h)
    · exact .inr (.inr ⟨bindings, hvars, fun root h hi => hroot ⟨root, h, hi⟩, not_exists.1 hnames⟩)

/-! ## What the handler makes of them -/

/-- No name is found exactly if the cluster has none that is a text. -/
theorem textAt?_eq_none_iff : textAt? cluster ["metadata", "name"] = none ↔ ¬ Named cluster := by
  unfold textAt? Named
  rw [Option.bind_eq_none_iff, not_exists]
  constructor
  · intro h name hname
    cases h _ hname
  · intro h j hj
    cases j with
    | str name => exact absurd hj (h name)
    | _ => rfl

/-- A cluster has the name that is found. -/
theorem named_of_textAt? {name : String} (h : textAt? cluster ["metadata", "name"] = some name) :
    Named cluster := by
  by_contra hnot
  rw [textAt?_eq_none_iff.2 hnot] at h
  cases h

/-- What is looked for in the variables of a cluster is what it names. -/
theorem names_iff (hvars : topologyVariables? cluster = some bindings) : Names cluster x ↔
    (Variables.ofList bindings).valueAt mirrorRef.name mirrorRef.path = .ok (some x) := by
  rw [Variables.valueAt_eq_some_iff]
  constructor
  · rintro ⟨bindings', root, hvars', hroot, hmember, hnull⟩
    obtain rfl : bindings = bindings' := Option.some.inj (hvars.symm.trans hvars')
    refine ⟨root, hroot, ?_, hnull⟩
    rw [mirrorRef, Json.memberAt?, hmember]
    rfl
  · rintro ⟨root, hroot, hmember, hnull⟩
    obtain ⟨child, hchild, hx⟩ := Option.bind_eq_some_iff.1 hmember
    exact ⟨bindings, root, hvars, hroot, hx ▸ hchild, hnull⟩

/-- Only what is no object can stand in the way of the mirror. -/
theorem obstructed_mirrorRef_iff {vars : Variables} {here : List String} {segment : String}
    {found : Json} : vars.Obstructed mirrorRef.name mirrorRef.path here segment found ↔
      vars.get? ClusterConfig.variableName = some found ∧ found.Impassable ∧ here = [] ∧
        segment = "globalImageRegistryMirror" := by
  unfold Variables.Obstructed mirrorRef
  simp only [obstructs_cons_iff, not_obstructs_nil, and_false, exists_false, or_false]
  constructor
  · rintro ⟨root, hroot, rfl, rfl, rfl, himpassable⟩
    exact ⟨hroot, himpassable, rfl, rfl⟩
  · rintro ⟨hroot, himpassable, rfl, rfl⟩
    exact ⟨found, hroot, rfl, rfl, rfl, himpassable⟩

/-- If the mirror cannot be read, no default can be worked out. -/
theorem exists_error_of_get (hvars : topologyVariables? cluster = some bindings)
    (hget : ∃ e, mirrorRef.get ClusterConfig.Mirror.shape (.ofList bindings) = .error e) :
    ∃ e, defaulted? mirror cluster = .error e := by
  obtain ⟨raw, hraw, hread⟩ := topologyVariables?_eq_some_iff.1 hvars
  obtain ⟨e, hget⟩ := hget
  unfold defaulted?
  rw [show ["spec", "topology", "variables"] = variablesPath from rfl]
  exact ⟨e, by simp only [hraw, hread, hget]⟩

/-- A malformed cluster is refused. -/
theorem Malformed.exists_error (h : Malformed cluster) (mirror : ClusterConfig.Mirror) :
    ∃ e, defaulted? mirror cluster = .error e := by
  cases h with
  -- the three ways to be malformed fail at the list, on the path and at its end
  | unreadable hthere hread =>
    obtain ⟨raw, hraw⟩ := Option.ne_none_iff_exists'.1 hthere
    unfold defaulted?
    rw [show ["spec", "topology", "variables"] = variablesPath from rfl, hraw]
    cases hlist : (Shape.list ClusterVariable.shape).ofJson raw with
    | error f => exact ⟨.serialization none (.topologyVariables f), by simp only [hlist]⟩
    | ok bindings =>
      rw [topologyVariables?_eq_some_iff.2 ⟨raw, hraw, hlist⟩] at hread
      cases hread
  | @config bindings root hvars hroot himpassable =>
    have hvalue := Variables.valueAt_eq_error_iff.2
      ⟨_, _, _, obstructed_mirrorRef_iff.2 ⟨hroot, himpassable, rfl, rfl⟩, rfl⟩
    refine exists_error_of_get hvars ?_
    unfold VariableRef.get Variables.get
    rw [hvalue]
    exact ⟨_, rfl⟩
  | @mirror x hnames hread =>
    obtain ⟨bindings, root, hvars, -⟩ := id hnames
    cases hx : ClusterConfig.Mirror.shape.ofJson x with
    | ok found => exact absurd hx (hread found)
    | error f =>
      refine exists_error_of_get hvars ?_
      unfold VariableRef.get Variables.get
      rw [(names_iff hvars).1 hnames]
      dsimp only
      rw [hx]
      exact ⟨_, rfl⟩

/-- A cluster that lacks a mirror has nothing in its place. -/
theorem Lacking.not_names (h : Lacking cluster) : ¬ Names cluster x := by
  obtain ⟨bindings, -, -, hnames⟩ := h
  exact hnames x

/-- A cluster that names a mirror is left alone. -/
theorem Mirrored.defaulted?_eq_none (h : Mirrored cluster) (mirror : ClusterConfig.Mirror) :
    defaulted? mirror cluster = .ok none := by
  obtain ⟨x, found, hnames, hread⟩ := h
  obtain ⟨bindings, root, hvars, -⟩ := id hnames
  have hget : mirrorRef.get ClusterConfig.Mirror.shape (.ofList bindings) = .ok (some found) :=
    Variables.get_eq_some_iff.2 ⟨x, (names_iff hvars).1 hnames, hread⟩
  exact defaulted?_of_finds (.mirrored hvars hget)

/-- Where there is a place for the mirror, setting it cannot fail: what would be in its way is in
the way of looking for it already. -/
theorem Lacking.exists_some (h : Lacking cluster) (mirror : ClusterConfig.Mirror) :
    ∃ written, defaulted? mirror cluster = .ok (some written) := by
  obtain ⟨bindings, hvars, hpassable, hnames⟩ := h
  have hfree : ∀ here segment found,
      ¬ (Variables.ofList bindings).Obstructed mirrorRef.name mirrorRef.path here segment found := by
    intro here segment found hobstructed
    obtain ⟨hroot, himpassable, -⟩ := obstructed_mirrorRef_iff.1 hobstructed
    exact hpassable found hroot himpassable
  have hget : mirrorRef.get ClusterConfig.Mirror.shape (.ofList bindings) = .ok none := by
    refine Variables.get_eq_none_iff.2 ?_
    rcases hvalue : (Variables.ofList bindings).valueAt mirrorRef.name mirrorRef.path with e | _ | x
    · obtain ⟨here, segment, found, hobstructed, -⟩ := Variables.valueAt_eq_error_iff.1 hvalue
      exact absurd hobstructed (hfree here segment found)
    · rfl
    · exact absurd ((names_iff hvars).2 hvalue) (hnames x)
  have hset : mirrorRef.set (ClusterConfig.Mirror.shape.toJson mirror) (.ofList bindings) =
      ((mirrorRef.set (ClusterConfig.Mirror.shape.toJson mirror) (.ofList bindings)).1, none) := by
    refine Prod.ext rfl (Option.eq_none_iff_forall_ne_some.2 fun e he => ?_)
    obtain ⟨here, segment, found, hobstructed, -⟩ := Variables.set_eq_error_iff.1 he
    exact hfree here segment found hobstructed
  obtain ⟨value, hvalue, -⟩ := Variables.memberAt?_set hset
  exact ⟨_, defaulted?_of_finds (.lacking hvars hget hset hvalue)⟩

/-- Variables that make no sense have no place for a mirror. -/
theorem Malformed.not_lacking (h : Malformed cluster) : ¬ Lacking cluster := by
  intro hlacking
  obtain ⟨e, he⟩ := h.exists_error ⟨""⟩
  obtain ⟨written, hwritten⟩ := hlacking.exists_some ⟨""⟩
  rw [he] at hwritten
  cases hwritten

/-- Working out the default fails exactly if the variables make no sense. -/
theorem exists_error_defaulted?_iff :
    (∃ e, defaulted? mirror cluster = .error e) ↔ Malformed cluster := by
  refine ⟨fun ⟨e, he⟩ => ?_, fun h => h.exists_error mirror⟩
  rcases cases_of_cluster cluster with hbare | h | h | h
  · rw [defaulted?_of_finds (.bare hbare)] at he
    cases he
  · exact h
  · rw [h.defaulted?_eq_none] at he
    cases he
  · obtain ⟨written, hwritten⟩ := h.exists_some mirror
    rw [hwritten] at he
    cases he

/-- There is nothing to write exactly if there are no variables, or they name a mirror. -/
theorem defaulted?_eq_none_iff : defaulted? mirror cluster = .ok none ↔
    cluster.at? variablesPath = none ∨ Mirrored cluster := by
  constructor
  · intro hnone
    rcases cases_of_cluster cluster with hbare | h | h | h
    · exact .inl hbare
    · obtain ⟨e, he⟩ := h.exists_error mirror
      rw [he] at hnone
      cases hnone
    · exact .inr h
    · obtain ⟨written, hwritten⟩ := h.exists_some mirror
      rw [hwritten] at hnone
      cases hnone
  · rintro (hbare | h)
    · exact defaulted?_of_finds (.bare hbare)
    · exact h.defaulted?_eq_none mirror

/-- There is something to write exactly if the variables lack a mirror. -/
theorem exists_some_defaulted?_iff :
    (∃ written, defaulted? mirror cluster = .ok (some written)) ↔ Lacking cluster := by
  refine ⟨fun ⟨written, hwritten⟩ => ?_, fun h => h.exists_some mirror⟩
  rcases cases_of_cluster cluster with hbare | h | h | h
  · rw [defaulted?_of_finds (.bare hbare)] at hwritten
    cases hwritten
  · obtain ⟨e, he⟩ := h.exists_error mirror
    rw [he] at hwritten
    cases hwritten
  · rw [h.defaulted?_eq_none] at hwritten
    cases hwritten
  · exact h

/-! ## Calls -/

/-- The answer to a write asks for another call where trying again can help, and only there. -/
theorem retryAfterSeconds_answer {outcome : Except Error Unit} {seconds : Signed32} :
    (answer s outcome).retryAfterSeconds = some seconds ↔
      seconds = s.retryAfterSeconds ∧ ∃ e, outcome = .error e ∧ e.isRetryable = true := by
  cases outcome with
  | ok u =>
    constructor
    · intro h
      cases h
    · rintro ⟨-, e, he, -⟩
      cases he
  | error e =>
    unfold answer
    dsimp only
    split
    · rename_i hretry
      constructor
      · intro h
        exact ⟨(Option.some.inj h).symm, e, rfl, hretry⟩
      · rintro ⟨rfl, -⟩
        rfl
    · rename_i hretry
      constructor
      · intro h
        cases h
      · rintro ⟨-, e', he, hretry'⟩
        cases he
        exact absurd hretry' hretry

variable {request : LifecycleRequest} {client : Write → Except Error Unit}

/-- The handler writes once or not at all, whatever comes of the write. -/
theorem length_writes_call_le_one (s : Settings) (request : LifecycleRequest)
    (client : Write → Except Error Unit) : ((call s request).writes client).length ≤ 1 := by
  have hdoes := does_call s request
  generalize call s request = plan at hdoes ⊢
  cases hdoes with
  | nameless _ => exact Nat.zero_le 1
  | refuse _ => exact Nat.zero_le 1
  | agree _ _ => exact Nat.zero_le 1
  | write _ _ => exact Nat.le_refl 1

/-- The handler writes where the cluster has a name and lacks a mirror, and nowhere else. -/
theorem writes_call_ne_nil_iff :
    (call s request).writes client ≠ [] ↔ Named request.cluster ∧ Lacking request.cluster := by
  have hdoes := does_call s request
  generalize call s request = plan at hdoes ⊢
  cases hdoes with
  | nameless hname =>
    exact ⟨fun h => absurd rfl h, fun ⟨hnamed, _⟩ => absurd hnamed (textAt?_eq_none_iff.1 hname)⟩
  | refuse hrefused =>
    refine ⟨fun h => absurd rfl h, fun ⟨_, hlacking⟩ => ?_⟩
    obtain ⟨written, hwritten⟩ := hlacking.exists_some s.mirror
    rw [hrefused] at hwritten
    cases hwritten
  | agree hname hfinds =>
    refine ⟨fun h => absurd rfl h, fun ⟨_, hlacking⟩ => ?_⟩
    obtain ⟨written, hwritten⟩ := hlacking.exists_some s.mirror
    rw [defaulted?_of_finds hfinds] at hwritten
    cases hwritten
  | write hname hfinds =>
    exact ⟨fun _ => ⟨named_of_textAt? hname,
      exists_some_defaulted?_iff.1 ⟨_, defaulted?_of_finds hfinds⟩⟩, fun _ => nofun⟩

/-- The handler answers with success where the cluster has a name and nothing was to be written, or
the write went well. -/
theorem status_run_call_eq_success_iff :
    ((call s request).run client).status = .success ↔ Named request.cluster ∧
      (request.cluster.at? variablesPath = none ∨ Mirrored request.cluster ∨
        ∃ w ∈ (call s request).writes client, client w = .ok ()) := by
  have hdoes := does_call s request
  generalize call s request = plan at hdoes ⊢
  cases hdoes with
  | nameless hname =>
    exact ⟨nofun, fun ⟨hnamed, _⟩ => absurd hnamed (textAt?_eq_none_iff.1 hname)⟩
  | refuse hrefused =>
    -- a refused cluster is none of the three: its default fails
    refine ⟨nofun, fun ⟨_, h⟩ => ?_⟩
    rcases h with hbare | hmirrored | ⟨w, hw, -⟩
    · rw [defaulted?_eq_none_iff.2 (.inl hbare)] at hrefused
      cases hrefused
    · rw [hmirrored.defaulted?_eq_none] at hrefused
      cases hrefused
    · cases hw
  | agree hname hfinds =>
    refine ⟨fun _ => ⟨named_of_textAt? hname, ?_⟩, fun _ => rfl⟩
    exact (defaulted?_eq_none_iff.1 (defaulted?_of_finds hfinds)).imp_right .inl
  | @write name bindings hname hfinds =>
    refine ⟨fun hstatus => ⟨named_of_textAt? hname, .inr (.inr ?_)⟩, fun ⟨_, h⟩ => ?_⟩
    · exact ⟨_, List.mem_singleton_self _, eq_ok_of_status_answer hstatus⟩
    -- only the write itself can have gone well, as there was something to write
    · rcases h with hbare | hmirrored | ⟨w, hw, hok⟩
      · have hnone := defaulted?_eq_none_iff.2 (.inl hbare) ▸ defaulted?_of_finds hfinds
        cases hnone
      · have hnone := hmirrored.defaulted?_eq_none s.mirror ▸ defaulted?_of_finds hfinds
        cases hnone
      · obtain rfl := List.mem_singleton.1 hw
        have hrun : (answer s (.ok ())).status = .success := rfl
        rwa [← hok] at hrun

/-- The handler asks to be called again where the write failed in a way that may pass. -/
theorem retryAfterSeconds_run_call_iff {seconds : Signed32} :
    ((call s request).run client).retryAfterSeconds = some seconds ↔
      seconds = s.retryAfterSeconds ∧
        ∃ w ∈ (call s request).writes client, ∃ e, client w = .error e ∧ e.isRetryable = true := by
  have hdoes := does_call s request
  generalize call s request = plan at hdoes ⊢
  cases hdoes with
  | nameless _ => exact ⟨nofun, nofun⟩
  | refuse _ => exact ⟨nofun, nofun⟩
  | agree _ _ => exact ⟨nofun, nofun⟩
  | write _ _ =>
    simp only [Plan.run, Plan.writes, finish, List.mem_singleton, exists_eq_left,
      retryAfterSeconds_answer]

/-- How the handler deals with the API server, for every cluster and every client. It makes one
write at most, and makes it where the cluster has a name and lacks a mirror; so none where the name
is no text, the variables are malformed or a mirror stands there. It answers with success where the
cluster has a name and nothing was to be written or the write went well. It asks to be called again
where the write failed in a way that may pass, after the time that it is set to, and never because a
cluster is malformed. -/
theorem call_discipline (s : Settings) (request : LifecycleRequest)
    (client : Write → Except Error Unit) :
    let cluster := request.cluster
    let response := (call s request).run client
    let writes := (call s request).writes client
    (writes.length ≤ 1 ∧ (writes ≠ [] ↔ Named cluster ∧ Lacking cluster)) ∧
    (¬ Named cluster ∨ Malformed cluster ∨ (∃ x, Names cluster x) → writes = []) ∧
    (response.status = .success ↔ Named cluster ∧
      (cluster.at? variablesPath = none ∨ Mirrored cluster ∨
        ∃ w ∈ writes, client w = .ok ())) ∧
    (∀ seconds, response.retryAfterSeconds = some seconds ↔ seconds = s.retryAfterSeconds ∧
      ∃ w ∈ writes, ∃ e, client w = .error e ∧ e.isRetryable = true) ∧
    (Malformed cluster → response.retryAfterSeconds = none) := by
  intro cluster response writes
  have hwrites : writes ≠ [] ↔ Named cluster ∧ Lacking cluster := writes_call_ne_nil_iff
  have hnone : ¬ Named cluster ∨ Malformed cluster ∨ (∃ x, Names cluster x) → writes = [] := by
    -- what keeps from writing contradicts what a write needs
    intro h
    by_contra hsome
    obtain ⟨hnamed, hlacking⟩ := hwrites.1 hsome
    rcases h with hnameless | hmalformed | ⟨x, hnames⟩
    · exact hnameless hnamed
    · exact hmalformed.not_lacking hlacking
    · exact hlacking.not_names hnames
  refine ⟨⟨length_writes_call_le_one s request client, hwrites⟩, hnone,
    status_run_call_eq_success_iff, fun _ => retryAfterSeconds_run_call_iff, fun hmalformed => ?_⟩
  refine Option.eq_none_iff_forall_ne_some.2 fun seconds hseconds => ?_
  obtain ⟨-, w, hw, -⟩ := retryAfterSeconds_run_call_iff.1 hseconds
  have hempty : writes = [] := hnone (.inr (.inl hmalformed))
  rw [show (call s request).writes client = writes from rfl, hempty] at hw
  cases hw

/-- Where the API server is unavailable, the handler asks to be called again. -/
theorem call_discipline_unavailable :
    let request := requestFor [("variables", .arr [])]
    let unavailable : Error :=
      .kube (.refused ⟨"Failure", "the server is starting", "ServiceUnavailable", 503⟩)
    ((call (settingsFor "mirror.example.com") request).run fun _ =>
      .error unavailable).retryAfterSeconds = some ⟨15, by decide⟩ := by
  intro request unavailable
  obtain ⟨-, -, -, hretry, -⟩ :=
    call_discipline (settingsFor "mirror.example.com") request fun _ => .error unavailable
  refine (hretry ⟨15, by decide⟩).2 ⟨rfl, ⟨"default", "prod", ?_⟩, ?_, unavailable, rfl, rfl⟩
  · exact [⟨ClusterConfig.variableName,
      .obj [("globalImageRegistryMirror", .obj [("url", .str "mirror.example.com")])], none⟩]
  · decide +kernel

end MirrorDefault

end TopologyHooks
