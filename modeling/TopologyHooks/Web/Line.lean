import TopologyHooks.Lifecycle.ClusterApi
import TopologyHooks.Web.Router

/-!
# Requests and answers as lines of text

A request to the extension, its answer, and what passes between the extension and an API server
are each one JSON object on a line.

* `Web.Request.ofLine`, `Web.Response.toLine` — the extension and its caller.
* `ClusterApi.Request.toLine`, `ClusterApi.Response.ofLine` — the extension and the API server.
-/

set_option autoImplicit false

namespace TopologyHooks

namespace Web

/-- How a request is written. -/
def Request.shape : Shape Request :=
  .struct "Request"
    (.required "method" .text <| .required "path" .text <| .defaulted "body" "" .text .done)
    (fun (method, target, body, _) => ⟨method, target, body⟩)
    (fun r => (r.method, r.target, r.body, ()))

/-- The request on a line. -/
def Request.ofLine (line : String) : Except Fault Request := Request.shape.ofText line

/-- The text of a body. -/
def Body.content : Body → String
  | none | withheld => ""
  | text s => s
  | json j => j.render

/-- An answer on a line. -/
def Response.toLine (r : Response) : String :=
  (Json.object
    [("status", .ofNat r.status), ("type", r.body.contentType?.elim .null .str),
      ("body", .str r.body.content)]).render

end Web

namespace ClusterApi

/-- A request to the API server on a line. -/
def Request.toLine (r : Request) : String :=
  (Json.object
    [("method", .str r.method), ("uri", .str r.uri), ("type", .str r.contentType),
      ("body", .str r.body.render)]).render

/-- How an answer of the API server is written. -/
def Response.shape : Shape Response :=
  .struct "Response" (.required "status" .unsigned16 <| .defaulted "body" "" .text .done)
    (fun (status, body, _) => ⟨status.val.toNat, body⟩)
    (fun r => (Unsigned16.nearest r.status, r.body, ()))

/-- The answer of the API server on a line. -/
def Response.ofLine (line : String) : Except Fault Response := Response.shape.ofText line

end ClusterApi

end TopologyHooks
