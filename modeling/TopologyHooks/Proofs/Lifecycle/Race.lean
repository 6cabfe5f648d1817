import TopologyHooks.Proofs.Lifecycle.Convergence

/-!
# Writes that cross other writes

A cluster lives at an API server. Requests carry it to the handler as it was when they were sent,
the handler answers with writes, and another client may replace the topology variables at any time.

* `MirrorDefault.Step` — one of these events, in any order; messages may arrive late, more than once
  or never. `MirrorDefault.Reachable` — what can come of any number of them.
* `MirrorDefault.Sound` — a request whose version is still that of the cluster carries the cluster
  as it is. Every step keeps that.
* `MirrorDefault.mirror?_of_arrives` — a write arrives at a cluster that has a mirror only if the
  cluster was changed after the request was sent. It then puts the default mirror in its place
  (`MirrorDefault.not_mirror?_of_arrives`).
-/

set_option autoImplicit false

namespace TopologyHooks

open ClusterApi

namespace MirrorDefault

/-! ## Worlds and their steps -/

/-- A request that was sent, and how often the cluster had been changed by then. -/
structure Asked where
  request : LifecycleRequest
  version : Nat

/-- A cluster at an API server, how often it was changed, and the messages that were sent: requests,
and the writes that they led to. -/
structure World where
  live : Json
  version : Nat
  asked : List Asked
  sent : List (Asked × Write)

namespace World

/-- A cluster that no request was sent about. -/
def initial (live : Json) : World := ⟨live, 0, [], []⟩

/-- The world after the cluster was changed. -/
def changed (world : World) (live : Json) : World :=
  { world with live := live, version := world.version + 1 }

/-- The world after a request was sent that carries the cluster. -/
def ask (world : World) (request : LifecycleRequest) : World :=
  { world with asked := ⟨request, world.version⟩ :: world.asked }

/-- The world after a write was sent. -/
def send (world : World) (a : Asked) (w : Write) : World :=
  { world with sent := (a, w) :: world.sent }

end World

/-- A write that a request led to arrives, and the API server merges it into the cluster. -/
inductive Arrives (world : World) (a : Asked) (w : Write) : World → Prop
  | merged {r : Request} {live : Json} (hsent : (a, w) ∈ world.sent) (hrequest : request w = .ok r)
      (hmerged : Merged r.body world.live live) : Arrives world a w (world.changed live)

/-- What can happen: another client replaces the topology variables, a request is sent, the handler
decides on a request to write, or its write arrives. -/
inductive Step (s : Settings) (world : World) : World → Prop
  | replace {live : Json} (bindings : List ClusterVariable)
      (hmerged : Merged (.nest ((Shape.list ClusterVariable.shape).toJson bindings) variablesPath)
        world.live live) : Step s world (world.changed live)
  | ask {request : LifecycleRequest} (hcluster : request.cluster = world.live) :
      Step s world (world.ask request)
  | decide {a : Asked} {w : Write} {next : Except Error Unit → Plan HookResponse}
      (hasked : a ∈ world.asked) (hcall : call s a.request = .write w next) :
      Step s world (world.send a w)
  | arrive {a : Asked} {w : Write} {world' : World} (h : Arrives world a w world') :
      Step s world world'

/-- What can come of any number of steps, from any cluster. -/
inductive Reachable (s : Settings) : World → Prop
  | initial (live : Json) : Reachable s (.initial live)
  | step {world world' : World} (hreach : Reachable s world) (hstep : Step s world world') :
      Reachable s world'

variable {s : Settings} {world world' : World} {a : Asked} {w : Write}

/-! ## What every step keeps -/

/-- Requests are no newer than the cluster, and carry it if it was not changed since; writes stem
from requests. -/
structure Sound (s : Settings) (world : World) : Prop where
  version_le : ∀ a ∈ world.asked, a.version ≤ world.version
  live_eq : ∀ a ∈ world.asked, a.version = world.version → a.request.cluster = world.live
  asked : ∀ m ∈ world.sent, m.1 ∈ world.asked
  call_eq : ∀ m ∈ world.sent, call s m.1.request = .write m.2 (finish s)

/-- Before anything was sent, a world is sound. -/
theorem sound_initial (s : Settings) (live : Json) : Sound s (.initial live) where
  version_le := fun _ h => absurd h List.not_mem_nil
  live_eq := fun _ h => absurd h List.not_mem_nil
  asked := fun _ h => absurd h List.not_mem_nil
  call_eq := fun _ h => absurd h List.not_mem_nil

/-- No request is as new as a cluster that was just changed. -/
theorem Sound.changed (h : Sound s world) (live : Json) : Sound s (world.changed live) where
  version_le := fun a ha => Nat.le_succ_of_le (h.version_le a ha)
  live_eq := by
    intro a ha hversion
    have hle := h.version_le a ha
    rw [hversion] at hle
    exact absurd hle (Nat.not_succ_le_self world.version)
  asked := h.asked
  call_eq := h.call_eq

/-- A world stays sound when a request is sent with the cluster as it is. -/
theorem Sound.ask (h : Sound s world) {request : LifecycleRequest}
    (hcluster : request.cluster = world.live) : Sound s (world.ask request) where
  version_le := by
    intro a ha
    rcases List.mem_cons.1 ha with rfl | ha
    · exact Nat.le_refl world.version
    · exact h.version_le a ha
  live_eq := by
    intro a ha hversion
    rcases List.mem_cons.1 ha with rfl | ha
    · exact hcluster
    · exact h.live_eq a ha hversion
  asked := fun m hm => List.mem_cons_of_mem _ (h.asked m hm)
  call_eq := h.call_eq

/-- A world stays sound when a write is sent that a request led to. -/
theorem Sound.send (h : Sound s world) (hasked : a ∈ world.asked)
    (hcall : call s a.request = .write w (finish s)) : Sound s (world.send a w) where
  version_le := h.version_le
  live_eq := h.live_eq
  asked := by
    intro m hm
    rcases List.mem_cons.1 hm with rfl | hm
    · exact hasked
    · exact h.asked m hm
  call_eq := by
    intro m hm
    rcases List.mem_cons.1 hm with rfl | hm
    · exact hcall
    · exact h.call_eq m hm

/-- A world stays sound whatever happens. -/
theorem Sound.step (h : Sound s world) (hstep : Step s world world') : Sound s world' := by
  cases hstep with
  | replace _ _ => exact h.changed _
  | ask hcluster => exact h.ask hcluster
  | decide hasked hcall =>
    obtain ⟨rfl, -⟩ := exists_fills_of_call hcall
    exact h.send hasked hcall
  | arrive harrives =>
    cases harrives with
    | merged _ _ _ => exact h.changed _

/-- Every world that can be reached is sound. -/
theorem sound_of_reachable (h : Reachable s world) : Sound s world := by
  induction h with
  | initial live => exact sound_initial s live
  | step _ hstep ih => exact ih.step hstep

/-! ## Arriving writes -/

/-- When a write arrives, the cluster has the variables that it carries. -/
theorem topologyVariables?_of_arrives (h : Arrives world a w world') :
    topologyVariables? world'.live = some w.bindings := by
  cases h with
  | merged _ hrequest hmerged =>
    obtain rfl := eq_of_request_eq_ok hrequest
    exact topologyVariables?_of_merged hmerged

/-- What the variables that are written lead to. -/
theorem Fills.mirror?_of_carries {cluster carrier value : Json} {bindings : List ClusterVariable}
    {vars : Variables} (h : Fills s cluster w bindings vars value)
    (hcarrier : topologyVariables? carrier = some w.bindings) :
    mirror? carrier = if occurrences ClusterConfig.variableName bindings ≤ 1 then
      some (ClusterConfig.Mirror.shape.toJson s.mirror) else none := by
  split
  · rename_i hsingle
    apply (mirror?_eq_some_iff hcarrier).2
    rw [h.written]
    exact valueAt_replaceFirst hsingle h.sets h.valued
  · rename_i hrepeated
    apply mirror?_of_lacking hcarrier
    rw [h.ofList_written_of_repeated (Nat.lt_of_not_le hrepeated)]
    exact h.lacks

/-- A write that arrives at a cluster with a mirror was decided on for the cluster as it was before
somebody changed it. After it the cluster has the default mirror instead, or none if `clusterConfig`
was repeated in the cluster of the request. -/
theorem mirror?_of_arrives {chosen : Json} (hreach : Reachable s world)
    (harrives : Arrives world a w world') (hchosen : mirror? world.live = some chosen) :
    a.version < world.version ∧
      ∃ bindings, topologyVariables? a.request.cluster = some bindings ∧
        mirror? world'.live = if occurrences ClusterConfig.variableName bindings ≤ 1 then
          some (ClusterConfig.Mirror.shape.toJson s.mirror) else none := by
  have hsound := sound_of_reachable hreach
  have hsent : (a, w) ∈ world.sent := by
    cases harrives with
    | merged hsent _ _ => exact hsent
  have hasked := hsound.asked _ hsent
  obtain ⟨-, bindings, vars, value, hfills⟩ := exists_fills_of_call (hsound.call_eq _ hsent)
  refine ⟨Nat.lt_of_le_of_ne (hsound.version_le a hasked) fun hversion => ?_, bindings,
    hfills.found, hfills.mirror?_of_carries (topologyVariables?_of_arrives harrives)⟩
  -- otherwise the request carried the cluster as it is, with its mirror
  have hlacks := mirror?_of_lacking hfills.found hfills.lacks
  rw [hsound.live_eq a hasked hversion, hchosen] at hlacks
  cases hlacks

/-- A request about a cluster without variables, and the write that it leads to. -/
def lateAsked : Asked := ⟨requestWith [], 0⟩

/-- The variables with the default mirror. -/
def lateWrite : Write := ⟨"default", "prod",
  [⟨"clusterConfig", .obj [("globalImageRegistryMirror", .obj [("url", .str "mirror.example.com")])],
    none⟩]⟩

/-- The cluster of the late request, after somebody chose a mirror for it. -/
def crossed : World where
  live := (requestWith []).cluster.mergePatch (.nest ((Shape.list ClusterVariable.shape).toJson
    [mirrorVariable "own.example.com" "a"]) variablesPath)
  version := 1
  asked := [lateAsked]
  sent := [(lateAsked, lateWrite)]

/-- The request is sent and answered with a write, and then somebody chooses a mirror. -/
theorem reachable_crossed : Reachable (settingsFor "mirror.example.com") crossed := by
  let before : World := .initial (requestWith []).cluster
  have hask : Reachable (settingsFor "mirror.example.com") (before.ask (requestWith [])) :=
    (Reachable.initial (requestWith []).cluster).step (.ask rfl)
  have hdecide : Reachable (settingsFor "mirror.example.com")
      ((before.ask (requestWith [])).send lateAsked lateWrite) :=
    hask.step (.decide List.mem_cons_self (by rfl))
  exact hdecide.step (.replace _ (merged_mergePatch _ _))

/-- The late write arrives at the cluster that was changed meanwhile. -/
theorem arrives_crossed : Arrives crossed lateAsked lateWrite
    (crossed.changed (crossed.live.mergePatch (body lateWrite))) :=
  .merged List.mem_cons_self rfl (merged_mergePatch _ _)

/-- The late write was decided on before somebody chose a mirror, and replaces that by the default. -/
theorem mirror?_of_arrives_crossed :
    mirror? crossed.live = some (.obj [("url", .str "own.example.com")]) ∧
      lateAsked.version < crossed.version ∧
      mirror? (crossed.changed (crossed.live.mergePatch (body lateWrite))).live =
        some (.obj [("url", .str "mirror.example.com")]) := by
  have hchosen : mirror? crossed.live = some (.obj [("url", .str "own.example.com")]) := by rfl
  obtain ⟨hlate, bindings, hbindings, hmirror⟩ :=
    mirror?_of_arrives reachable_crossed arrives_crossed hchosen
  obtain rfl : [] = bindings := Option.some.inj hbindings
  exact ⟨hchosen, hlate, hmirror⟩

/-- A write that arrives does not always keep the mirror that a cluster has by then. -/
theorem not_mirror?_of_arrives : ¬ ∀ (s : Settings) (world world' : World) (a : Asked) (w : Write)
    (chosen : Json), Reachable s world → Arrives world a w world' →
      mirror? world.live = some chosen → mirror? world'.live = some chosen := by
  intro h
  have hkept := h _ _ _ _ _ (.obj [("url", .str "own.example.com")]) reachable_crossed
    arrives_crossed (by rfl)
  have hlost : mirror? (crossed.changed (crossed.live.mergePatch (body lateWrite))).live =
      some (.obj [("url", .str "mirror.example.com")]) := by rfl
  rw [hlost] at hkept
  exact absurd hkept (by decide)

end MirrorDefault

end TopologyHooks
