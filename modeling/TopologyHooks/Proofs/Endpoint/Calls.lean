import TopologyHooks.Proofs.Endpoint.Dispatch

/-!
# Which calls reach an endpoint

* `Endpoint.answer?` — what an endpoint answers when it is called for a hook, if it can be called:
  a handler of the topology for the hooks about the topology, a handler of the life of clusters for
  the other ones.
* `EndpointTable.callHook_attempts` — a call under a name that discovery lists is answered by the
  endpoint behind it, unless that is a handler of the life of clusters that declares a hook about
  the topology. Such a handler is offered and never called; calls under other names reach nothing.
* `EndpointTable.not_callHook_attempts` — that exception is there.
-/

set_option autoImplicit false

namespace TopologyHooks

open Web

namespace Endpoint

/-- What an endpoint answers to the body of a call for a hook, if it can be called for it. -/
def answer? (hook : Hook) (body : String) : Endpoint → Option (Except RequestError (Plan Json))
  | topology handler =>
    match hook with
    | .discoverVariables => some ((readBody DiscoverVariablesRequest.shape body).map fun r =>
        .answer (DiscoverVariablesResponse.shape.toJson (handler.discoverVariables r)))
    | .generatePatches => some ((readBody GeneratePatches.Request.shape body).map fun r =>
        .answer (GeneratePatches.Response.shape.toJson (handler.generatePatches r .never)))
    | .validateTopology => some ((readBody ValidateTopology.Request.shape body).map fun r =>
        .answer (HookResponse.shape.toJson (handler.validateTopology r)))
    | _ => none
  | lifecycle handler =>
    if hook.isLifecycle then
      some ((readBody LifecycleRequest.shape body).map fun r =>
        (handler.call r).map HookResponse.shape.toJson)
    else none

variable {e : Endpoint} {hook : Hook} {body : String}

/-- An endpoint answers what it does with a request that the body is read as. -/
theorem answer?_eq_map (e : Endpoint) (hook : Hook) (body : String) : e.answer? hook body =
    (e.serve? hook).map fun serve => (readBody hook.requestShape body).map serve := by
  cases e <;> cases hook <;> rfl

/-- An endpoint can be called for a hook that it serves unless it is misplaced. -/
theorem answer?_eq_none_iff (h : hook ∈ e.hooks) : e.answer? hook body = none ↔ e.Misplaced := by
  rw [answer?_eq_map, Option.map_eq_none_iff, serve?_eq_none_iff h]

/-- An endpoint that can be called complains about nothing but the body. -/
theorem badRequest_of_answer? {error : RequestError}
    (h : e.answer? hook body = some (.error error)) : ∃ f, error = .badRequest f := by
  rw [answer?_eq_map, Option.map_eq_some_iff] at h
  obtain ⟨serve, -, hread⟩ := h
  unfold readBody at hread
  cases hbody : (body : Payload).read hook.requestShape with
  | ok request =>
    rw [hbody] at hread
    cases hread
  | error f =>
    rw [hbody] at hread
    cases hread
    exact ⟨f, rfl⟩

end Endpoint

namespace EndpointTable

variable {t : EndpointTable} {e : Endpoint} {hook : Hook} {name body : String}

/-- A call is answered by the endpoint that is found for it, if that can be called for the hook. -/
theorem callHook_eq (t : EndpointTable) (hook : Hook) (name body : String) :
    callHook t hook.segment name body =
      ((t.find? hook name).bind (Endpoint.answer? hook body)).getD
        (.error (.unknownHandler hook name)) := by
  rw [callHook, dispatch_eq hook.ofSegment?_segment]
  cases t.find? hook name with
  | none => rfl
  | some e =>
    rw [Option.bind_some, Option.bind_some, Endpoint.answer?_eq_map]
    cases e.serve? hook <;> rfl

/-- A call under a name that is not offered is answered by nothing. -/
theorem callHook_of_not_lists (h : ¬ t.discovery.Lists hook name) :
    callHook t hook.segment name body = .error (.unknownHandler hook name) := by
  have hfind : t.find? hook name = none := by
    rw [lists_discovery_iff, ← isSome_find?_iff, Option.not_isSome_iff_eq_none] at h
    exact h
  rw [callHook_eq, hfind]
  rfl

/-- After any registrations, of which some may be refused, a call for a hook under a name that
discovery lists for it is answered by the very endpoint that the entry stands for, and the only
complaint can be about the body. The exception is a handler of the life of clusters that declares a
hook about the topology: no call reaches it. Neither does any call under a name that discovery does
not list for the hook reach anything. -/
theorem callHook_attempts (timeoutSeconds : Unsigned32) (failurePolicy : FailurePolicy)
    (es : List Endpoint) :
    let t := (empty timeoutSeconds failurePolicy).attempts es
    (∀ i e hook name body, t.Stands i e hook name →
      (¬ e.Misplaced → e.answer? hook body = some (callHook t hook.segment name body) ∧
        ∀ error, callHook t hook.segment name body = .error error → ∃ f, error = .badRequest f) ∧
      (e.Misplaced → callHook t hook.segment name body = .error (.unknownHandler hook name))) ∧
    ∀ hook name body, ¬ t.discovery.Lists hook name →
      callHook t hook.segment name body = .error (.unknownHandler hook name) := by
  intro t
  have hdistinct : t.Distinct := (distinct_empty timeoutSeconds failurePolicy).attempts es
  refine ⟨?_, fun hook name body hlists => callHook_of_not_lists hlists⟩
  intro i e hook name body hstands
  obtain ⟨hentry, hname⟩ := stands_iff.1 hstands
  have hoffered : (e, hook) ∈ t.offered := List.mem_of_getElem? hentry
  have hserves : hook ∈ e.hooks := (mem_offered.1 hoffered).2
  -- names are distinct, so that look-up finds this endpoint and no other one
  have hcall : callHook t hook.segment name body =
      (e.answer? hook body).getD (.error (.unknownHandler hook name)) := by
    rw [callHook_eq, hdistinct.find?_eq_some_iff.2 ⟨hoffered, hname⟩, Option.bind_some]
  constructor
  · intro hplaced
    obtain ⟨answer, hanswer⟩ : ∃ answer, e.answer? hook body = some answer :=
      Option.ne_none_iff_exists'.1 fun hnone =>
        hplaced ((Endpoint.answer?_eq_none_iff hserves).1 hnone)
    rw [hanswer, Option.getD_some] at hcall
    rw [hcall]
    refine ⟨hanswer, fun error herror => Endpoint.badRequest_of_answer? (herror ▸ hanswer)⟩
  · intro hmisplaced
    rw [hcall, (Endpoint.answer?_eq_none_iff hserves).2 hmisplaced]
    rfl

/-- A handler of the life of clusters may declare a hook about the topology. It is offered for that
hook, and no call reaches it. -/
theorem not_callHook_attempts : ¬ ∀ (timeoutSeconds : Unsigned32) (failurePolicy : FailurePolicy)
    (es : List Endpoint),
    let t := (empty timeoutSeconds failurePolicy).attempts es
    ∀ hook name body, t.discovery.Lists hook name →
      callHook t hook.segment name body ≠ .error (.unknownHandler hook name) := by
  intro h
  let e : Endpoint := .lifecycle (.idle "idle" .generatePatches)
  have hoffered : ((empty ⟨10, by decide⟩ .fail).attempts [e]).offered =
      [(e, .generatePatches)] := rfl
  apply h ⟨10, by decide⟩ .fail [e] .generatePatches "idle-generatepatches" ""
  · rw [lists_discovery_iff, hoffered]
    exact ⟨e, List.mem_singleton_self _, by decide +kernel⟩
  · rw [callHook_eq]
    rfl

end EndpointTable

end TopologyHooks
