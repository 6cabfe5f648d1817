import TopologyHooks.Proofs.Lifecycle.MirrorDefault

/-!
# Calling again after a write

* `MirrorDefault.Carries` — whether a cluster has become what a write asked for.
* `MirrorDefault.call_of_carries` — where `clusterConfig` is not repeated among the topology
  variables, what is written leads to the default mirror, and a second call writes nothing. Where it
  is repeated, what is written leads to no mirror, and every further call makes the same write again
  (`MirrorDefault.not_call_of_carries`): the value goes to the first variable of that name, and the
  last one counts.
-/

set_option autoImplicit false

namespace TopologyHooks

open ClusterApi

namespace MirrorDefault

variable {s : Settings} {cluster : Json} {w : Write} {bindings : List ClusterVariable}

/-- Whether a cluster is the one that a write is for, with the topology variables that are written. -/
structure Carries (cluster : Json) (w : Write) : Prop where
  name : textAt? cluster ["metadata", "name"] = some w.name
  space : (textAt? cluster ["metadata", "namespace"]).getD "default" = w.namespaceName
  found : topologyVariables? cluster = some w.bindings

/-- A merge patch with topology variables leaves the metadata alone. -/
theorem textAt?_mergePatch_body (hvars : topologyVariables? cluster = some bindings) (key : String) :
    textAt? (cluster.mergePatch (body w)) ["metadata", key] = textAt? cluster ["metadata", key] := by
  have hpath : Json.Diverge variablesPath ["metadata", key] := Json.diverge_cons.2 (.inl (by decide))
  unfold textAt?
  rw [at?_mergePatch_body_of_diverge w (listFree_of_topologyVariables? hvars) hpath]

/-- A cluster carries what is merged into it. -/
theorem carries_mergePatch {request : LifecycleRequest} {next : Except Error Unit → Plan HookResponse}
    (h : call s request = .write w next) : Carries (request.cluster.mergePatch (body w)) w := by
  obtain ⟨-, bindings, vars, value, hfills⟩ := exists_fills_of_call h
  refine ⟨?_, ?_, ?_⟩
  · rw [textAt?_mergePatch_body hfills.found]
    exact hfills.name
  · rw [textAt?_mergePatch_body hfills.found]
    exact hfills.space
  · exact topologyVariables?_of_merged (merged_mergePatch (body w) request.cluster)

/-- A mirror is read back as it was written. -/
theorem ofJson_toJson_mirror (mirror : ClusterConfig.Mirror) :
    ClusterConfig.Mirror.shape.ofJson (ClusterConfig.Mirror.shape.toJson mirror) = .ok mirror := rfl

/-- What is written for a variable that is not repeated leads to the default mirror. -/
theorem Fills.get_written {vars : Variables} {value : Json}
    (h : Fills s cluster w bindings vars value)
    (hsingle : occurrences ClusterConfig.variableName bindings ≤ 1) :
    mirrorRef.get ClusterConfig.Mirror.shape (.ofList w.bindings) = .ok (some s.mirror) := by
  rw [h.written]
  exact Variables.get_eq_some_iff.2
    ⟨_, valueAt_replaceFirst hsingle h.sets h.valued, ofJson_toJson_mirror s.mirror⟩

/-- What is written for a repeated variable is as good as what was there. -/
theorem Fills.ofList_written_of_repeated {vars : Variables} {value : Json}
    (h : Fills s cluster w bindings vars value)
    (hrepeated : 1 < occurrences ClusterConfig.variableName bindings) :
    Variables.ofList w.bindings = Variables.ofList bindings := by
  rw [h.written, ofList_replaceFirst_of_repeated hrepeated]

/-- A write for a repeated variable is made again for the cluster that carries it. -/
theorem Fills.again {again : Json} {vars : Variables} {value : Json}
    (h : Fills s cluster w bindings vars value)
    (hrepeated : 1 < occurrences ClusterConfig.variableName bindings) (hagain : Carries again w) :
    Fills s again w w.bindings vars value := by
  have hsame := h.ofList_written_of_repeated hrepeated
  refine ⟨hagain.name, hagain.space, hagain.found, ?_, ?_, h.valued, ?_⟩
  · rw [hsame]
    exact h.lacks
  · rw [hsame]
    exact h.sets
  · rw [h.written, replaceFirst_replaceFirst]

/-- What comes of a write. If `clusterConfig` is not repeated in the cluster, what is written leads
to the default mirror, and a call for a cluster that carries it has nothing to do. If it is repeated,
what is written leads to no mirror, and a call for a cluster that carries it makes the same write
again. -/
theorem call_of_carries {request : LifecycleRequest} {next : Except Error Unit → Plan HookResponse}
    (hcall : call s request = .write w next) :
    ∃ bindings, topologyVariables? request.cluster = some bindings ∧
      (occurrences ClusterConfig.variableName bindings ≤ 1 →
        mirrorRef.get ClusterConfig.Mirror.shape (.ofList w.bindings) = .ok (some s.mirror) ∧
        ∀ again : LifecycleRequest, Carries again.cluster w →
          call s again = .answer (.success hook)) ∧
      (1 < occurrences ClusterConfig.variableName bindings →
        mirrorRef.get ClusterConfig.Mirror.shape (.ofList w.bindings) = .ok none ∧
        ∀ again : LifecycleRequest, Carries again.cluster w → call s again = .write w next) := by
  obtain ⟨rfl, bindings, vars, value, hfills⟩ := exists_fills_of_call hcall
  refine ⟨bindings, hfills.found, fun hsingle => ?_, fun hrepeated => ?_⟩
  · have hget := hfills.get_written hsingle
    refine ⟨hget, fun again hagain => ?_⟩
    exact call_of_mirrored hagain.name hagain.found hget
  · refine ⟨?_, fun again hagain => ?_⟩
    · rw [hfills.ofList_written_of_repeated hrepeated]
      exact hfills.lacks
    · exact (hfills.again hrepeated hagain).call_eq

/-- A request about a cluster with some topology variables. -/
def requestWith (bindings : List ClusterVariable) : LifecycleRequest :=
  requestFor [("variables", (Shape.list ClusterVariable.shape).toJson bindings)]

/-- A variable without settings, as a source defines it. -/
def plainVariable (name source : String) : ClusterVariable := ⟨name, .obj [], some source⟩

/-- The variable with the settings of a cluster, as a source defines it, with a mirror. -/
def mirrorVariable (url source : String) : ClusterVariable :=
  ⟨"clusterConfig", .obj [("globalImageRegistryMirror", .obj [("url", .str url)])], some source⟩

/-- A cluster whose sources agree on everything but its workers has the default mirror after one
write. -/
theorem call_of_carries_workers :
    let s := settingsFor "mirror.example.com"
    let request := requestWith
      [plainVariable "workerConfig" "a", plainVariable "workerConfig" "b",
        plainVariable "clusterConfig" "a"]
    let w : Write := ⟨"default", "prod", [plainVariable "workerConfig" "a",
      plainVariable "workerConfig" "b", mirrorVariable "mirror.example.com" "a"]⟩
    call s request = .write w (finish s) ∧
      mirrorRef.get ClusterConfig.Mirror.shape (.ofList w.bindings) = .ok (some s.mirror) ∧
      ∀ again : LifecycleRequest, again.cluster = request.cluster.mergePatch (body w) →
        call s again = .answer (.success hook) := by
  intro s request w
  have hcall : call s request = .write w (finish s) := by rfl
  obtain ⟨bindings, hvars, hsingle, -⟩ := call_of_carries hcall
  obtain rfl : _ = bindings := Option.some.inj hvars
  obtain ⟨hget, hagain⟩ := hsingle (by decide)
  refine ⟨hcall, hget, fun again hcluster => hagain again ?_⟩
  rw [hcluster]
  exact carries_mergePatch hcall

/-- If two sources define `clusterConfig`, the first write does not settle the mirror, and a second
call does not leave it at that. -/
theorem not_call_of_carries : ¬ ∀ (s : Settings) (request : LifecycleRequest) (w : Write)
    (next : Except Error Unit → Plan HookResponse), call s request = .write w next →
      mirrorRef.get ClusterConfig.Mirror.shape (.ofList w.bindings) = .ok (some s.mirror) ∧
      ∀ again : LifecycleRequest, Carries again.cluster w →
        call s again = .answer (.success hook) := by
  intro h
  let s := settingsFor "mirror.example.com"
  let w : Write := ⟨"default", "prod",
    [mirrorVariable "mirror.example.com" "a", plainVariable "clusterConfig" "b"]⟩
  have hcall : call s (requestWith
      [plainVariable "clusterConfig" "a", plainVariable "clusterConfig" "b"]) =
      .write w (finish s) := by rfl
  obtain ⟨hget, hagain⟩ := h _ _ _ _ hcall
  have hagain := hagain (requestWith w.bindings) ⟨rfl, rfl, rfl⟩
  have hsecond : call s (requestWith w.bindings) = .write w (finish s) := by rfl
  rw [hsecond] at hagain
  cases hagain

end MirrorDefault

end TopologyHooks
