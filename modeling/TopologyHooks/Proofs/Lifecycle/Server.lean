import TopologyHooks.Lifecycle.ClusterApi
import TopologyHooks.Proofs.Json.MergePatch
import TopologyHooks.Proofs.Variable.Bindings

/-!
# Clusters behind an API server

* `ClusterApi.Server` — an API server that holds one cluster: what it answers to a request, and the
  cluster afterwards. `ClusterApi.Server.Merges` says that it merges the merge patches of the
  cluster that it accepts; what becomes of the metadata is its own business.
* `ClusterApi.Server.answer`, `ClusterApi.Server.after` — the answer of a plan that is carried out at
  a server, and the cluster afterwards; every write finds the cluster as the ones before it left it.
* `ClusterApi.Server.topologyVariables?_written` — after a write that went well, the topology
  variables of the cluster are those of the write.
* `ClusterApi.merging` — a server that merges every merge patch of its cluster.
-/

set_option autoImplicit false

namespace TopologyHooks

namespace ClusterApi

/-- The place of the topology variables in a cluster. -/
def variablesPath : List String := ["spec", "topology", "variables"]

/-- The topology variables of a cluster, if they are there and can be read. -/
def topologyVariables? (cluster : Json) : Option (List ClusterVariable) :=
  (cluster.at? variablesPath).bind fun raw =>
    ((Shape.list ClusterVariable.shape).ofJson raw).toOption

/-- A cluster has topology variables exactly if a list stands at their place from which they can be
read. -/
theorem topologyVariables?_eq_some_iff {cluster : Json} {bindings : List ClusterVariable} :
    topologyVariables? cluster = some bindings ↔ ∃ raw, cluster.at? variablesPath = some raw ∧
      (Shape.list ClusterVariable.shape).ofJson raw = .ok bindings := by
  unfold topologyVariables?
  rw [Option.bind_eq_some_iff]
  refine exists_congr fun raw => and_congr_right fun _ => ?_
  cases (Shape.list ClusterVariable.shape).ofJson raw with
  | ok read => simp [Except.toOption]
  | error f => simp [Except.toOption]

/-! ## Requests -/

/-- The body of a write names the place of the topology variables, and nothing else. -/
theorem body_eq_nest (w : Write) :
    body w = .nest ((Shape.list ClusterVariable.shape).toJson w.bindings) variablesPath := rfl

/-- A list replaces whatever it is merged into. -/
theorem mergePatch_list (bindings : List ClusterVariable) (j : Json) :
    j.mergePatch ((Shape.list ClusterVariable.shape).toJson bindings) =
      (Shape.list ClusterVariable.shape).toJson bindings := by
  rw [Shape.toJson]
  unfold Json.mergePatch
  rfl

/-- After the body of a write was merged in, its variables stand at their place. -/
theorem memberAt?_mergePatch_body (w : Write) (cluster : Json) :
    (cluster.mergePatch (body w)).memberAt? variablesPath =
      some ((Shape.list ClusterVariable.shape).toJson w.bindings) := by
  rw [body_eq_nest]
  apply Json.memberAt?_mergePatch_nest
  · rw [Shape.toJson]
    exact nofun
  · exact mergePatch_list w.bindings

/-- No list stands on the way to the topology variables of a cluster that has some. -/
theorem listFree_of_topologyVariables? {cluster : Json} {bindings : List ClusterVariable}
    (h : topologyVariables? cluster = some bindings) : Json.ListFree variablesPath cluster := by
  obtain ⟨raw, hraw, -⟩ := topologyVariables?_eq_some_iff.1 h
  exact Json.listFree_of_memberAt? (Json.memberAt?_of_at? (by decide) hraw)

/-- What stands outside the topology variables stays when some are merged in. -/
theorem at?_mergePatch_body_of_diverge (w : Write) {cluster : Json} {path : List String}
    (hfree : Json.ListFree variablesPath cluster) (hpath : Json.Diverge variablesPath path) :
    (cluster.mergePatch (body w)).at? path = cluster.at? path := by
  rw [body_eq_nest]
  apply Json.at?_mergePatch_nest_of_diverge
  · rw [Shape.toJson]
    exact nofun
  · exact hfree
  · exact hpath

/-- The request for a write is a merge patch of the cluster that it is for, with the body of the
write. -/
theorem eq_of_request_eq_ok {w : Write} {r : Request} (h : request w = .ok r) :
    r = ⟨"PATCH", uri w.namespaceName w.name, mergePatchType, body w⟩ := by
  unfold request at h
  split at h
  · cases h
  · exact (Except.ok.inj h).symm

/-- Whether a merge patch makes one cluster of another, when the metadata may change as they like. -/
def Merged (patch before after : Json) : Prop :=
  ∀ key, key ≠ "metadata" → after.member? key = (before.mergePatch patch).member? key

/-- A value with a patch merged into it is one that the patch makes of the value. -/
theorem merged_mergePatch (patch before : Json) : Merged patch before (before.mergePatch patch) :=
  fun _ _ => rfl

/-- The topology variables of a cluster that some were merged into. -/
theorem topologyVariables?_of_merged {w : Write} {before after : Json}
    (h : Merged (body w) before after) : topologyVariables? after = some w.bindings := by
  -- the variables stand outside the metadata, of which nothing is promised
  have hspec := h "spec" (by decide)
  have hvariables := memberAt?_mergePatch_body w before
  rw [variablesPath, Json.memberAt?, ← hspec, ← Json.memberAt?] at hvariables
  exact topologyVariables?_eq_some_iff.2
    ⟨_, Json.at?_of_memberAt? hvariables, ClusterVariable.ofJson_list w.bindings⟩

/-! ## Servers -/

/-- An API server that holds one cluster: what it answers, and the cluster afterwards. -/
abbrev Server := Json → Request → Response × Json

namespace Server

variable {α : Type}

/-- Whether a server merges the merge patches of the cluster at a place that it accepts. The
metadata are managed by the server and may change as it likes. -/
def Merges (server : Server) (place : String) : Prop :=
  ∀ stored r, r.method = "PATCH" → r.uri = place → r.contentType = mergePatchType →
    outcome (server stored r).1 = .ok () →
    ∀ key, key ≠ "metadata" → (server stored r).2.member? key = (stored.mergePatch r.body).member? key

/-- How a write to a server goes. -/
def takes (server : Server) (stored : Json) (w : Write) : Except Error Unit :=
  send (fun r => (server stored r).1) w

/-- The cluster after a write to a server. -/
def written (server : Server) (stored : Json) (w : Write) : Json :=
  match request w with
  | .error _ => stored
  | .ok r => (server stored r).2

/-- The answer of a plan that is carried out at a server. -/
def answer (server : Server) : Json → Plan α → α
  | _, .answer a => a
  | stored, .write w next => answer server (server.written stored w) (next (server.takes stored w))

/-- The cluster after a plan was carried out at a server. -/
def after (server : Server) : Json → Plan α → Json
  | stored, .answer _ => stored
  | stored, .write w next => after server (server.written stored w) (next (server.takes stored w))

/-- A write that went well was sent, and the server accepted it. -/
theorem exists_request_of_send {server : Request → Response} {w : Write}
    (h : send server w = .ok ()) : ∃ r, request w = .ok r ∧ outcome (server r) = .ok () := by
  unfold send at h
  cases hr : request w with
  | error e =>
    rw [hr] at h
    cases h
  | ok r =>
    rw [hr] at h
    refine ⟨r, rfl, ?_⟩
    cases ho : outcome (server r) with
    | ok u => rfl
    | error e =>
      dsimp only at h
      rw [ho] at h
      cases h

/-- After a write that went well, the topology variables are those of the write. -/
theorem topologyVariables?_written {server : Server} {stored : Json} {w : Write}
    (hserver : server.Merges (uri w.namespaceName w.name)) (h : server.takes stored w = .ok ()) :
    topologyVariables? (server.written stored w) = some w.bindings := by
  obtain ⟨r, hr, haccepted⟩ := exists_request_of_send h
  have hwritten : server.written stored w = (server stored r).2 := by
    unfold written
    rw [hr]
  obtain rfl := eq_of_request_eq_ok hr
  rw [hwritten]
  exact topologyVariables?_of_merged (hserver stored _ rfl rfl rfl haccepted)

end Server

/-- A server that merges every merge patch of the cluster at a place, and answers with the cluster.
It knows nothing else. -/
def merging (place : String) : Server := fun stored r =>
  if r.method = "PATCH" ∧ r.uri = place ∧ r.contentType = mergePatchType then
    let merged := stored.mergePatch r.body
    (⟨200, merged.render⟩, merged)
  else (⟨404, (refusalShape.toJson notFound).render⟩, stored)
where
  notFound : Refusal := ⟨"Failure", "the server could not find the requested resource", "NotFound", 404⟩

/-- The server that merges whatever it is sent for a place merges the patches there. -/
theorem merges_merging (place : String) : (merging place).Merges place := by
  intro stored r hmethod huri htype _ key _
  unfold merging
  rw [if_pos ⟨hmethod, huri, htype⟩]

end ClusterApi

end TopologyHooks
