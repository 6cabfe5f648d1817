import TopologyHooks.Json.Printer
import TopologyHooks.Lifecycle.Plan
import TopologyHooks.Template.Metadata

/-!
# Writing through the API server

* `ClusterApi.request` — the request that a write is sent as: a merge patch of the cluster.
* `ClusterApi.outcome` — what the answer of the API server means: a refusal when its status says
  so, otherwise success if the answer is an object of the cluster.
* `ClusterApi.send` — both together.
-/

set_option autoImplicit false

namespace TopologyHooks

namespace ClusterApi

/-- A request to the API server. -/
structure Request where
  method : String
  uri : String
  contentType : String
  body : Json

/-- An answer of the API server. -/
structure Response where
  status : Nat
  body : String

/-- The body of a write. -/
def body (w : Write) : Json :=
  let bindings := (Shape.list ClusterVariable.shape).toJson w.bindings
  .obj [("spec", .obj [("topology", .obj [("variables", bindings)])])]

/-- Where a cluster is found. -/
def uri (space name : String) : String :=
  "/apis/cluster.x-k8s.io/v1beta1/namespaces/" ++ space ++ "/clusters/" ++ name ++ "?"

/-- The type of a merge patch. -/
def mergePatchType : String := "application/merge-patch+json"

/-- The request that a write is sent as. -/
def request (w : Write) : Except ApiError Request :=
  if w.name == "" then .error .noName
  else
    .ok {
      method := "PATCH"
      uri := uri w.namespaceName w.name
      contentType := mergePatchType
      body := body w }

/-! ## Answers -/

/-- How a refusal is written. -/
def refusalShape : Shape Refusal :=
  .struct "ErrorResponse"
    (.required "status" .text <|
     .defaulted "message" "" .text <|
     .defaulted "reason" "" .text <|
     .required "code" .unsigned16 .done)
    (fun (status, message, reason, code, _) => ⟨status, message, reason, code.val.toNat⟩)
    (fun r => (r.status, r.message, r.reason, Unsigned16.nearest r.code, ()))

/-- An object of the cluster, of which only the metadata are looked at. -/
def objectShape : Shape ObjectMeta :=
  .flattened ⟨"struct DynamicObject", false⟩
    (.defaulted "metadata" .blank ObjectMeta.shape .done) .done
    (fun ((metadata, _), _) => metadata) (fun metadata => ((metadata, ()), ()))

/-- The words for the statuses of failed requests. -/
def phrases : List (Nat × String) :=
  [(400, "Bad Request"), (401, "Unauthorized"), (402, "Payment Required"), (403, "Forbidden"),
    (404, "Not Found"), (405, "Method Not Allowed"), (406, "Not Acceptable"),
    (407, "Proxy Authentication Required"), (408, "Request Timeout"), (409, "Conflict"),
    (410, "Gone"), (411, "Length Required"), (412, "Precondition Failed"),
    (413, "Payload Too Large"), (414, "URI Too Long"), (415, "Unsupported Media Type"),
    (416, "Range Not Satisfiable"), (417, "Expectation Failed"), (418, "I'm a teapot"),
    (421, "Misdirected Request"), (422, "Unprocessable Entity"), (423, "Locked"),
    (424, "Failed Dependency"), (425, "Too Early"), (426, "Upgrade Required"),
    (428, "Precondition Required"), (429, "Too Many Requests"),
    (431, "Request Header Fields Too Large"), (451, "Unavailable For Legal Reasons"),
    (500, "Internal Server Error"), (501, "Not Implemented"), (502, "Bad Gateway"),
    (503, "Service Unavailable"), (504, "Gateway Timeout"),
    (505, "HTTP Version Not Supported"), (506, "Variant Also Negotiates"),
    (507, "Insufficient Storage"), (508, "Loop Detected"), (510, "Not Extended"),
    (511, "Network Authentication Required")]

/-- A status with its words. -/
def statusText (status : Nat) : String :=
  toString status ++ " " ++ (phrases.lookup status).getD "<unknown status code>"

/-- The refusal of an answer that does not say what it means. -/
def unclearRefusal (r : Response) : Refusal :=
  ⟨statusText r.status, Text.quoted r.body, "Failed to parse error data", r.status⟩

/-- What an answer of the API server means. -/
def outcome (r : Response) : Except ApiError Unit :=
  if 400 ≤ r.status ∧ r.status < 600 then
    match refusalShape.ofText r.body with
    | .ok refusal => .error (.refused refusal)
    | .error _ => .error (.refused (unclearRefusal r))
  else
    match objectShape.ofText r.body with
    | .ok _ => .ok ()
    | .error f => .error (.unreadable f)

/-- Sends a write to an API server. -/
def send (server : Request → Response) (w : Write) : Except Error Unit :=
  match request w with
  | .error e => .error (.kube e)
  | .ok r => (outcome (server r)).mapError .kube

end ClusterApi

end TopologyHooks
