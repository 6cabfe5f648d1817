import TopologyHooks.Proofs.Endpoint.Dispatch
import TopologyHooks.Proofs.Handler.Validation
import TopologyHooks.Proofs.Lifecycle.MirrorDefault
import TopologyHooks.Proofs.Shape.Writing

/-!
# What a call of a hook comes to

A call names no hook or no handler (404), or has an unreadable body (400), or is answered by an
endpoint (200).

* `Tells` — what the JSON of an answer tells: the kind of the hook, and a status. All answers open
  with the same fields (`tells_toJson`).
* `BuiltIn` — the endpoints that come with the program, and how the engine or the client can fail
  while one of them is at a request (`BuiltIn.Fails`). The status is a failure exactly then, which
  is shown for each kind of request apart and put together in `BuiltIn.exists_serve_of_mem_hooks`.
* `EndpointTable.dispatch_classified` — which of the three a call comes to. The hook and the handler
  are settled before the body is looked at, and failures of the engine and of the client never
  become another code.
-/

set_option autoImplicit false

namespace TopologyHooks

open Web

/-! ## Answers -/

namespace Web.Response

/-- The member of the body of an answer with a key. -/
def member? (r : Response) (key : String) : Option Json :=
  match r.body with
  | .json j => j.member? key
  | _ => none

/-- Whether an answer has a code and a JSON body of a kind. -/
def Is (r : Response) (code : Nat) (kind : String) : Prop :=
  r.status = code ∧ r.member? "kind" = some (.str kind)

end Web.Response

/-- The answer to a request that failed has the code of the error and a `Status` as its body. -/
theorem RequestError.is_errorResponse (e : RequestError) :
    (errorResponse e).Is e.status.1 "Status" :=
  ⟨rfl, Assoc.get?_insertAll_nil "kind" (by simp)⟩

/-- The answer of a plan whose answers are changed, whatever comes of its writes. -/
theorem Plan.run_map {α β : Type} (f : α → β) (client : Write → Except Error Unit) :
    ∀ p : Plan α, (p.map f).run client = f (p.run client)
  | .answer _ => rfl
  | .write w next => run_map f client (next (client w))

/-! ## What answers tell -/

/-- What the JSON of an answer tells about a call: the kind of the hook, and whether it failed. -/
structure Tells (hook : Hook) (failed : Prop) (j : Json) : Prop where
  kind : j.member? "kind" = some (.str hook.responseKind)
  status : ∃ status : Status, j.member? "status" = some (.str status.name) ∧
    (status = .failure ↔ failed)

/-- The fields that open every answer. -/
def Message.opening {β : Type} (rest : Fields β) : Fields (String × String × Status × β) :=
  .required "apiVersion" .text <| .required "kind" .text <| .required "status" Status.shape rest

/-- An answer tells what its opening fields say, whatever its other fields are. -/
theorem tells_toJson {α β : Type} {rest : Fields β} {title : String}
    {into : String × String × Status × β → α} {outOf : α → String × String × Status × β} {a : α}
    {hook : Hook} {failed : Prop} (hkeys : (Message.opening rest).keys.Nodup)
    (hkind : (outOf a).2.1 = hook.responseKind) (hstatus : (outOf a).2.2.1 = .failure ↔ failed) :
    Tells hook failed ((Shape.struct title (Message.opening rest) into outOf).toJson a) := by
  have hmember (key : String) :
      ((Shape.struct title (Message.opening rest) into outOf).toJson a).member? key =
        Assoc.get? key ((Message.opening rest).members (outOf a)) := by
    rw [Shape.struct, Shape.toJson_record]
    exact Fields.get?_sorted hkeys (outOf a) key
  have hwritten : Status.shape.toJson (outOf a).2.2.1 = .str (outOf a).2.2.1.name := by
    rw [Status.shape, Shape.toJson]
  refine ⟨?_, (outOf a).2.2.1, ?_, hstatus⟩
  · rw [hmember, ← hkind]
    simp [Message.opening, Fields.required, Fields.members, Presence.skips, Assoc.get?]
  · rw [hmember, ← hwritten]
    simp [Message.opening, Fields.required, Fields.members, Presence.skips, Assoc.get?]

section

variable {hook : Hook} {failed : Prop}

/-- The written response to a discovery of variables tells its kind and its status. -/
theorem DiscoverVariablesResponse.tells_toJson {r : DiscoverVariablesResponse}
    (hkind : r.kind = hook.responseKind) (hstatus : r.status = .failure ↔ failed) :
    Tells hook failed (shape.toJson r) :=
  TopologyHooks.tells_toJson (by decide) hkind hstatus

/-- The written response to a generation of patches tells its kind and its status. -/
theorem GeneratePatches.Response.tells_toJson {r : Response}
    (hkind : r.kind = hook.responseKind) (hstatus : r.status = .failure ↔ failed) :
    Tells hook failed (shape.toJson r) :=
  TopologyHooks.tells_toJson (by decide) hkind hstatus

/-- The written response of any other hook tells its kind and its status. -/
theorem HookResponse.tells_toJson {r : HookResponse}
    (hkind : r.kind = hook.responseKind) (hstatus : r.status = .failure ↔ failed) :
    Tells hook failed (shape.toJson r) :=
  TopologyHooks.tells_toJson (by decide) hkind hstatus

end

/-! ## Failures -/

/-- An endpoint that comes with the program: a handler of the topology, or the handler that sets a
default registry mirror. -/
inductive BuiltIn : Type 1
  | topology (handler : Handler)
  | mirrorDefault (s : MirrorDefault.Settings)

namespace BuiltIn

/-- The endpoint itself. -/
def endpoint : BuiltIn → Endpoint
  | topology handler => .topology handler
  | mirrorDefault s => .lifecycle (MirrorDefault.handler s)

/-- How the engine or the client can fail while an endpoint is at a request. -/
inductive Fails (client : Write → Except Error Unit) :
    (hook : Hook) → hook.Request → BuiltIn → Prop
  | patches {handler : Handler} {request : GeneratePatches.Request} {error : Error}
      (h : handler.patches request .never = .error error) :
      Fails client .generatePatches request (topology handler)
  | lookup {handler : Handler} {request : ValidateTopology.Request} {vars : Variables}
      {m : Mutator} {error : Error} (hvars : vars ∈ Handler.scopes request)
      (hm : m ∈ handler.mutators) (h : m.lookup vars = .error error) :
      Fails client .validateTopology request (topology handler)
  | nameless {s : MirrorDefault.Settings} {request : LifecycleRequest}
      (h : MirrorDefault.textAt? request.cluster ["metadata", "name"] = none) :
      Fails client .beforeClusterCreate request (mirrorDefault s)
  | unreadable {s : MirrorDefault.Settings} {request : LifecycleRequest} {error : Error}
      (h : MirrorDefault.defaulted? s.mirror request.cluster = .error error) :
      Fails client .beforeClusterCreate request (mirrorDefault s)
  | client {s : MirrorDefault.Settings} {request : LifecycleRequest} {w : Write}
      {next : Except Error Unit → Plan HookResponse} {error : Error}
      (hplan : MirrorDefault.call s request = .write w next) (h : client w = .error error) :
      Fails client .beforeClusterCreate request (mirrorDefault s)

end BuiltIn

namespace Handler

variable {h : Handler} {client : Write → Except Error Unit}

/-- A generation of patches is answered with the response kind of that hook, cancelled or not. -/
theorem kind_generatePatches (request : GeneratePatches.Request) (token : CancellationToken) :
    (h.generatePatches request token).kind = Hook.generatePatches.responseKind := by
  unfold generatePatches
  cases h.patches request token <;> rfl

/-- A generation of patches that nobody cancels is answered with a failure exactly if the engine
fails at it. -/
theorem generatePatches_eq_failure_iff {request : GeneratePatches.Request} :
    (h.generatePatches request .never).status = .failure ↔
      (BuiltIn.topology h).Fails client .generatePatches request := by
  unfold generatePatches
  cases hpatches : h.patches request .never with
  | ok items =>
    refine ⟨nofun, fun hfails => ?_⟩
    cases hfails with
    | patches hfailed => cases hpatches.symm.trans hfailed
  | error e => exact ⟨fun _ => .patches hpatches, fun _ => rfl⟩

/-- A validation is answered with the response kind of that hook. -/
theorem kind_validateTopology (request : ValidateTopology.Request) :
    (h.validateTopology request).kind = Hook.validateTopology.responseKind := by
  unfold validateTopology
  cases (scopes request).findSome? (lookupFault? h.mutators) <;> rfl

/-- A validation is answered with a failure exactly if the engine fails at it. -/
theorem validateTopology_eq_failure_iff {request : ValidateTopology.Request} :
    (h.validateTopology request).status = .failure ↔
      (BuiltIn.topology h).Fails client .validateTopology request := by
  unfold validateTopology
  cases hfault : (scopes request).findSome? (lookupFault? h.mutators) with
  | none =>
    refine ⟨nofun, fun hfails => ?_⟩
    cases hfails with
    | @lookup _ _ vars m error hvars hm hlookup =>
      have hvars := List.findSome?_eq_none_iff.1 hfault vars hvars
      have hnone := List.findSome?_eq_none_iff.1 hvars m hm
      rw [hlookup] at hnone
      cases hnone
  | some e =>
    obtain ⟨vars, hvars, hmutators⟩ := List.exists_of_findSome?_eq_some hfault
    obtain ⟨m, hm, hlookup⟩ := List.exists_of_findSome?_eq_some hmutators
    refine ⟨fun _ => ?_, fun _ => rfl⟩
    split at hlookup
    · cases hlookup
    · rename_i error herror
      exact .lookup hvars hm herror

end Handler

namespace MirrorDefault

variable {s : Settings} {request : LifecycleRequest} {client : Write → Except Error Unit}
  {outcome : Except Error Unit}

/-- Whatever the outcome is, the answer is of the response kind of the hook. -/
theorem kind_answer : (answer s outcome).kind = hook.responseKind := by
  cases outcome with
  | ok _ => rfl
  | error e =>
    unfold answer
    dsimp only
    split <;> rfl

/-- The answer is a failure exactly if the outcome is an error. -/
theorem answer_eq_failure_iff :
    (answer s outcome).status = .failure ↔ ∃ e, outcome = .error e := by
  cases outcome with
  | ok _ => simp [answer, HookResponse.success]
  | error e => exact ⟨fun _ => ⟨e, rfl⟩, fun _ => status_answer_error s e⟩

/-- Whatever comes of the write, the default of a mirror is answered with the response kind of the
hook. -/
theorem kind_run_call : ((call s request).run client).kind = hook.responseKind := by
  have hdoes := does_call s request
  generalize call s request = plan at hdoes
  cases hdoes with
  | nameless hname => rfl
  | refuse hrefused => rfl
  | agree hname hfinds => rfl
  | write hname hfinds => exact kind_answer

/-- The default of a mirror is answered with a failure exactly if its client or the engine fails. -/
theorem run_call_eq_failure_iff :
    ((call s request).run client).status = .failure ↔
      (BuiltIn.mirrorDefault s).Fails client .beforeClusterCreate request := by
  have hdoes := does_call s request
  generalize hplan : call s request = plan at hdoes
  cases hdoes with
  | nameless hname => exact ⟨fun _ => .nameless hname, fun _ => rfl⟩
  | refuse hrefused => exact ⟨fun _ => .unreadable hrefused, fun _ => rfl⟩
  | agree hname hfinds =>
    refine ⟨nofun, fun hfails => ?_⟩
    cases hfails with
    | nameless hnameless => cases hnameless.symm.trans hname
    | unreadable hrefused => cases hrefused.symm.trans (defaulted?_of_finds hfinds)
    | client hwrite herror => cases hwrite.symm.trans hplan
  | write hname hfinds =>
    refine answer_eq_failure_iff.trans ⟨fun ⟨e, he⟩ => .client hplan he, fun hfails => ?_⟩
    cases hfails with
    | nameless hnameless => cases hnameless.symm.trans hname
    | unreadable hrefused => cases hrefused.symm.trans (defaulted?_of_finds hfinds)
    | client hwrite herror =>
      cases hwrite.symm.trans hplan
      exact ⟨_, herror⟩

end MirrorDefault

/-! ## Calls -/

namespace BuiltIn

variable {b : BuiltIn} {hook : Hook}

/-- An endpoint that serves a hook can be called for it, and then tells how the call went. -/
theorem exists_serve_of_mem_hooks (hhook : hook ∈ b.endpoint.hooks)
    (client : Write → Except Error Unit) : ∃ serve, b.endpoint.serve? hook = some serve ∧
      ∀ request, Tells hook (b.Fails client hook request) ((serve request).run client) := by
  cases b with
  | topology handler =>
    rcases Endpoint.mem_topologyHooks_iff.1 hhook with rfl | rfl | rfl
    · refine ⟨_, rfl, fun request => ?_⟩
      exact DiscoverVariablesResponse.tells_toJson rfl ⟨nofun, nofun⟩
    · refine ⟨_, rfl, fun request => ?_⟩
      exact GeneratePatches.Response.tells_toJson (Handler.kind_generatePatches request .never)
        Handler.generatePatches_eq_failure_iff
    · refine ⟨_, rfl, fun request => ?_⟩
      exact HookResponse.tells_toJson (Handler.kind_validateTopology request)
        Handler.validateTopology_eq_failure_iff
  | mirrorDefault s =>
    obtain rfl : hook = .beforeClusterCreate := List.mem_singleton.1 hhook
    refine ⟨_, rfl, fun request => ?_⟩
    rw [Plan.run_map]
    exact HookResponse.tells_toJson MirrorDefault.kind_run_call
      MirrorDefault.run_call_eq_failure_iff

end BuiltIn

namespace EndpointTable

variable {t : EndpointTable} {hook : Hook} {segment name : String} {body : Payload}
  {client : Write → Except Error Unit}

/-- A call of no hook, or under a name that discovery does not list for the hook. -/
theorem is_dispatch_of_not_lists (h : ¬ ∃ hook : Hook,
    Text.lowercase segment = Text.lowercase hook.name ∧ t.discovery.Lists hook name) :
    ((answering (dispatch t segment name body)).run client).Is 404 "Status" := by
  cases hsegment : Hook.ofSegment? segment with
  | none =>
    rw [dispatch_of_ofSegment?_eq_none hsegment]
    exact RequestError.is_errorResponse (.unknownHook segment)
  | some hook =>
    have hfind : t.find? hook name = none := by
      by_contra hfound
      refine h ⟨hook, Hook.ofSegment?_eq_some_iff.1 hsegment, ?_⟩
      rw [lists_discovery_iff, ← isSome_find?_iff]
      exact Option.isSome_iff_ne_none.2 hfound
    rw [dispatch_eq hsegment, hfind]
    exact RequestError.is_errorResponse (.unknownHandler hook name)

/-- A call under a name that discovery lists for the hook is answered by the endpoint that is found
for both, unless its body is unreadable. -/
theorem respond_of_lists {served : List BuiltIn}
    (hsegment : Text.lowercase segment = Text.lowercase hook.name)
    (hlists : t.discovery.Lists hook name) (ht : t.endpoints = served.map BuiltIn.endpoint)
    (body : Payload) (client : Write → Except Error Unit) :
    (∃ f, body.read hook.requestShape = .error f ∧
      (answering (dispatch t segment name body)).run client = errorResponse (.badRequest f)) ∨
    ∃ request j, body.read hook.requestShape = .ok request ∧
      (answering (dispatch t segment name body)).run client = ⟨200, .json j⟩ ∧
      ∃ b ∈ served, t.find? hook name = some b.endpoint ∧
        Tells hook (b.Fails client hook request) j := by
  rw [lists_discovery_iff, ← isSome_find?_iff] at hlists
  obtain ⟨e, hfind⟩ := Option.isSome_iff_exists.1 hlists
  have hmem := List.mem_of_find?_eq_some hfind
  rw [ht] at hmem
  obtain ⟨b, hb, rfl⟩ := List.mem_map.1 hmem
  have hanswers := List.find?_some hfind
  obtain ⟨serve, hserve, htells⟩ :=
    BuiltIn.exists_serve_of_mem_hooks (Endpoint.answersTo_iff.1 hanswers).1 client
  rw [dispatch_eq (Hook.ofSegment?_eq_some_iff.2 hsegment), hfind, Option.bind_some, hserve,
    Option.elim_some, readBody]
  cases hread : body.read hook.requestShape with
  | error f => exact .inl ⟨f, rfl, rfl⟩
  | ok request =>
    exact .inr ⟨request, _, rfl, Plan.run_map _ client (serve request), b, hb, rfl, htells request⟩

/-- Whatever the body of a call is and whatever the cluster answers, calls are classified exactly. A
call of no hook, or under a name that discovery does not list for the hook, is not found. Any other
call whose body does not read as what the hook is called with is a bad request. All others are
answered with the kind of the hook; a failure of the engine or of the client shows in the status
that the answer tells, and nowhere else. -/
theorem dispatch_classified (served : List BuiltIn) (timeoutSeconds : Unsigned32)
    (failurePolicy : FailurePolicy) (segment name : String) (body : Payload)
    (client : Write → Except Error Unit) :
    let t : EndpointTable := ⟨served.map BuiltIn.endpoint, timeoutSeconds, failurePolicy⟩
    let response := (answering (dispatch t segment name body)).run client
    (response.Is 404 "Status" ↔ ¬ ∃ hook : Hook,
      Text.lowercase segment = Text.lowercase hook.name ∧ t.discovery.Lists hook name) ∧
    ∀ hook : Hook, Text.lowercase segment = Text.lowercase hook.name →
      t.discovery.Lists hook name →
        (response.Is 400 "Status" ↔ ¬ ∃ request, body.read hook.requestShape = .ok request) ∧
        ∀ request, body.read hook.requestShape = .ok request →
          response.Is 200 hook.responseKind ∧
          ∃ b ∈ served, t.find? hook name = some b.endpoint ∧
            ∃ status : Status, response.member? "status" = some (.str status.name) ∧
              (status = .failure ↔ b.Fails client hook request) := by
  intro t
  dsimp only
  constructor
  · refine ⟨?_, is_dispatch_of_not_lists⟩
    -- a call that is listed has another code in either case
    rintro ⟨hstatus, -⟩ ⟨hook, hsegment, hlists⟩
    rcases respond_of_lists hsegment hlists rfl body client with
      ⟨f, -, hresponse⟩ | ⟨request, j, -, hresponse, -⟩
    · rw [hresponse] at hstatus
      cases hstatus
    · rw [hresponse] at hstatus
      cases hstatus
  · intro hook hsegment hlists
    rcases respond_of_lists hsegment hlists rfl body client with
      ⟨f, hread, hresponse⟩ | ⟨request, j, hread, hresponse, b, hb, hfind, htells⟩
    · simp only [hread, hresponse]
      refine ⟨iff_of_true (RequestError.is_errorResponse _) ?_, nofun⟩
      rintro ⟨request, ⟨⟩⟩
    · simp only [hread, hresponse]
      refine ⟨iff_of_false ?_ (not_not.2 ⟨request, rfl⟩), ?_⟩
      · rintro ⟨⟨⟩, -⟩
      · rintro _ ⟨⟩
        exact ⟨⟨rfl, htells.kind⟩, b, hb, hfind, htells.status⟩

/-- Where only the default mirror is served, a call of no hook is not found and an unreadable body
is a bad request. A cluster without a name is answered with a failure. -/
theorem dispatch_classified_mirrorDefault :
    let s := MirrorDefault.settingsFor "https://registry.example.com"
    let t : EndpointTable := ⟨[.lifecycle (MirrorDefault.handler s)], ⟨10, by decide⟩, .fail⟩
    let respond (segment : String) (body : Payload) :=
      (answering (dispatch t segment "registry-mirror-defaults-beforeclustercreate" body)).run
        fun _ => .ok ()
    (respond "frobnicate" "not json").Is 404 "Status" ∧
    (respond "BEFOREclustercreate" "not json").Is 400 "Status" ∧
    (respond "BEFOREclustercreate" "\x7b\x7d").Is 200 "BeforeClusterCreateResponse" ∧
    (respond "BEFOREclustercreate" "\x7b\x7d").member? "status" = some (.str "Failure") := by
  intro s t respond
  have hlists : t.discovery.Lists .beforeClusterCreate
      "registry-mirror-defaults-beforeclustercreate" := by
    rw [lists_discovery_iff]
    exact ⟨.lifecycle (MirrorDefault.handler s), List.mem_singleton_self _, by decide +kernel⟩
  have hnamed : Text.lowercase "BEFOREclustercreate" =
      Text.lowercase Hook.beforeClusterCreate.name := by decide +kernel
  have hclassified (segment : String) (body : Payload) :=
    dispatch_classified [.mirrorDefault s] ⟨10, by decide⟩ .fail segment
      "registry-mirror-defaults-beforeclustercreate" body fun _ => .ok ()
  have hunread : (Payload.ofText "not json").read Hook.beforeClusterCreate.requestShape =
      .error (.notJson .expectedIdent) := rfl
  have hread : (Payload.ofText "\x7b\x7d").read Hook.beforeClusterCreate.requestShape =
      .ok ⟨Hook.apiVersion, "", ∅, .null, none, none, none⟩ := rfl
  obtain ⟨his, b, hb, -, status, hstatus, hfails⟩ :=
    ((hclassified "BEFOREclustercreate" "\x7b\x7d").2 _ hnamed hlists).2 _ hread
  obtain rfl := List.mem_singleton.1 hb
  obtain rfl := hfails.2 (.nameless rfl)
  refine ⟨(hclassified "frobnicate" "not json").1.2 ?_,
    ((hclassified "BEFOREclustercreate" "not json").2 _ hnamed hlists).1.2 ?_, his, hstatus⟩
  · rintro ⟨hook, hhook, -⟩
    revert hhook
    cases hook <;> decide +kernel
  · rintro ⟨request, hrequest⟩
    cases hunread.symm.trans hrequest

end EndpointTable

end TopologyHooks
