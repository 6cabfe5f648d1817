import TopologyHooks.Endpoint
import TopologyHooks.Json.Printer
import TopologyHooks.Web.Percent

/-!
# Requests to the extension

* `Web.Request`, `Web.Response` — requests and answers.
* `Web.Route` — what a path asks for: discovery, a call of a hook, or whether the extension is
  well.
* `Web.dispatch` — a call of a hook, which is refused or becomes a plan; `Web.answering` is what
  either is answered with.
* `Web.respond` — the answer to a request, possibly after a write to a cluster. A path without a
  route and a method that a route does not know are answered without a body; so is a request for
  the head alone.
-/

set_option autoImplicit false

namespace TopologyHooks

namespace Web

/-- A request. -/
structure Request where
  method : String
  target : String
  body : String

/-- The body of an answer. -/
inductive Body
  | none
  | text (s : String)
  | json (j : Json)
  /-- A text that was not asked for. -/
  | withheld

/-- An answer. -/
structure Response where
  status : Nat
  body : Body

/-- The type of a body. -/
def Body.contentType? : Body → Option String
  | none => Option.none
  | text _ | withheld => some "text/plain; charset=utf-8"
  | json _ => some "application/json"

/-! ## Routes -/

/-- What a path asks for. -/
inductive Route
  | discovery
  | call (hook handler : String)
  | health
  | readiness
  deriving DecidableEq

/-- The path of a target, without query and fragment. -/
def pathOf (target : String) : List Char :=
  target.toList.takeWhile fun c => c != '?' && c != '#'

/-- The segments of a path between its slashes. -/
def segments : List Char → List (List Char)
  | [] => [[]]
  | c :: cs =>
    if c = '/' then [] :: segments cs
    else
      match segments cs with
      | [] => [[c]]
      | s :: rest => (c :: s) :: rest

/-- The route of a path. -/
def route? (target : String) : Option Route :=
  match (segments (pathOf target)).map String.ofList with
  | ["", "healthz"] => some .health
  | ["", "readyz"] => some .readiness
  | ["", group, version, "discovery"] =>
    if group ++ "/" ++ version = Hook.apiVersion then some .discovery else none
  | ["", group, version, hook, handler] =>
    if group ++ "/" ++ version = Hook.apiVersion ∧ hook ≠ "" ∧ handler ≠ "" then
      some (.call hook handler)
    else none
  | _ => none

/-! ## Calls of hooks -/

/-- The body of a call, of which nothing matters but what it reads as. Every text is one; bytes that
are no text can be one too, since a reader may pass over some of them. -/
structure Payload : Type 1 where
  read : {α : Type} → Shape α → Except Fault α

/-- A text as the body of a call. -/
def Payload.ofText (text : String) : Payload := ⟨fun shape => shape.ofText text⟩

instance : Coe String Payload := ⟨Payload.ofText⟩

/-- Reads the body of a request. -/
def readBody {α : Type} (shape : Shape α) (body : Payload) : Except RequestError α :=
  (body.read shape).mapError .badRequest

/-- A call of a hook. The hook and the handler are looked for before the body is read. No clock runs
here: a request for patches is not cancelled because it takes long. -/
def dispatch (t : EndpointTable) (segment name : String) (body : Payload) :
    Except RequestError (Plan Json) :=
  match Hook.ofSegment? segment with
  | none => .error (.unknownHook segment)
  | some .discoverVariables =>
    match t.topology .discoverVariables name with
    | .error e => .error e
    | .ok handler =>
      (readBody DiscoverVariablesRequest.shape body).map fun r =>
        .answer (DiscoverVariablesResponse.shape.toJson (handler.discoverVariables r))
  | some .generatePatches =>
    match t.topology .generatePatches name with
    | .error e => .error e
    | .ok handler =>
      (readBody GeneratePatches.Request.shape body).map fun r =>
        .answer (GeneratePatches.Response.shape.toJson (handler.generatePatches r .never))
  | some .validateTopology =>
    match t.topology .validateTopology name with
    | .error e => .error e
    | .ok handler =>
      (readBody ValidateTopology.Request.shape body).map fun r =>
        .answer (HookResponse.shape.toJson (handler.validateTopology r))
  | some hook =>
    match t.lifecycle hook name with
    | .error e => .error e
    | .ok handler =>
      (readBody LifecycleRequest.shape body).map fun r =>
        (handler.call r).map HookResponse.shape.toJson

/-- A call of a hook whose body is a text. -/
def callHook (t : EndpointTable) (segment name body : String) :
    Except RequestError (Plan Json) :=
  dispatch t segment name body

/-- The answer to a request that is not answered by a handler. -/
def errorResponse (e : RequestError) : Response := ⟨e.status.1, .json e.body⟩

/-- The answer to a segment that is no text. -/
def badSegment (name : String) : Response :=
  ⟨400, .text ("Invalid URL: Invalid UTF-8 in `" ++ name ++ "`")⟩

/-- What a call of a hook is answered with. -/
def answering : Except RequestError (Plan Json) → Plan Response
  | .error e => .answer (errorResponse e)
  | .ok plan => plan.map fun j => ⟨200, .json j⟩

/-- The answer to a request to call a hook. -/
def respondCall (t : EndpointTable) (hook handler body : String) : Plan Response :=
  match Percent.decode? hook with
  | none => .answer (badSegment "hook")
  | some hook =>
    match Percent.decode? handler with
    | none => .answer (badSegment "handler")
    | some handler => answering (callHook t hook handler body)

/-! ## Answers -/

/-- The answer to a question that may be asked for its head alone. -/
def respondGet (method : String) (status : Nat) (text : String) : Plan Response :=
  if method = "GET" then .answer ⟨status, .text text⟩
  else if method = "HEAD" then .answer ⟨status, .withheld⟩
  else .answer ⟨405, .none⟩

/-- The answer to a request. -/
def respond (t : EndpointTable) (r : Request) : Plan Response :=
  match route? r.target with
  | none => .answer ⟨404, .none⟩
  | some .health => respondGet r.method 200 "ok"
  | some .readiness =>
    if t.isEmpty then respondGet r.method 503 "no handlers registered"
    else respondGet r.method 200 "ok"
  | some .discovery =>
    if r.method = "POST" then
      .answer ⟨200, .json (DiscoveryResponse.shape.toJson t.discovery)⟩
    else .answer ⟨405, .none⟩
  | some (.call hook handler) =>
    if r.method = "POST" then respondCall t hook handler r.body
    else .answer ⟨405, .none⟩

end Web

end TopologyHooks
