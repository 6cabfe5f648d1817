import Mathlib.Data.List.Nodup
import TopologyHooks.Endpoint

/-!
# Discovery and look-up agree

* `Endpoint.discoveryName_inj` — the name that a handler is offered under for a hook determines the
  handler's own name and the hook, whatever dashes and names of hooks are in the former: no segment
  of a hook has a dash.
* `EndpointTable.attempts` — a table after some registrations, of which some may be refused.
* `EndpointTable.Distinct` — no name is offered twice. Every registration keeps this.
* `EndpointTable.discovery_attempts` — after any registrations, the names in discovery are distinct,
  and looking up finds exactly the endpoints that the entries of discovery stand for. A registration
  is refused exactly if discovery lists one of its names for the same hook; it then changes nothing.
-/

set_option autoImplicit false

namespace TopologyHooks

/-! ## Names -/

namespace Hook

/-- No segment has a hyphen in it, so the last hyphen of an offered name stands before the
segment. -/
theorem not_mem_segment (hook : Hook) : '-' ∉ hook.segment.toList := by
  cases hook <;> decide +kernel

/-- The segment of a hook is read back as this hook. -/
theorem ofSegment?_segment (hook : Hook) : ofSegment? hook.segment = some hook := by
  cases hook <;> decide +kernel

/-- Hooks with the same segment are the same. -/
theorem segment_injective {hook hook' : Hook} (h : hook.segment = hook'.segment) :
    hook = hook' := by
  have hof := ofSegment?_segment hook'
  rw [← h, ofSegment?_segment] at hof
  exact Option.some.inj hof

/-- Hooks with the same name are the same. -/
theorem name_injective {hook hook' : Hook} (h : hook.name = hook'.name) : hook = hook' :=
  segment_injective (congrArg Text.lowercase h)

end Hook

/-- What stands behind the last occurrence of an item determines what stands before it. -/
theorem append_cons_inj_of_not_mem {α : Type} {a : α} {before before' after after' : List α}
    (h : a ∉ after) (h' : a ∉ after') (heq : before ++ a :: after = before' ++ a :: after') :
    before = before' ∧ after = after' := by
  rcases List.append_eq_append_iff.1 heq with ⟨between, hbefore, hafter⟩ | ⟨between, hbefore, hafter⟩
  · cases between with
    | nil => simp_all
    | cons b rest =>
      rw [List.cons_append, List.cons.injEq] at hafter
      exact absurd (hafter.2 ▸ List.mem_append_right _ List.mem_cons_self) h
  · cases between with
    | nil => simp_all
    | cons b rest =>
      rw [List.cons_append, List.cons.injEq] at hafter
      exact absurd (hafter.2 ▸ List.mem_append_right _ List.mem_cons_self) h'

namespace Endpoint

/-- The letters of an offered name: those of the endpoint, a hyphen, and those of the segment. -/
theorem toList_discoveryName (name : String) (hook : Hook) :
    (discoveryName name hook).toList = name.toList ++ '-' :: hook.segment.toList := by
  unfold discoveryName
  rw [String.toList_append, String.toList_append, List.append_assoc]
  rfl

/-- A handler's name and a hook can be told from the name that is offered for both. -/
theorem discoveryName_inj {name name' : String} {hook hook' : Hook} :
    discoveryName name hook = discoveryName name' hook' ↔ name = name' ∧ hook = hook' := by
  constructor
  · intro h
    have hchars := congrArg String.toList h
    rw [toList_discoveryName, toList_discoveryName] at hchars
    obtain ⟨hname, hsegment⟩ := append_cons_inj_of_not_mem hook.not_mem_segment
      hook'.not_mem_segment hchars
    exact ⟨String.toList_inj.1 hname, Hook.segment_injective (String.toList_inj.1 hsegment)⟩
  · rintro ⟨rfl, rfl⟩
    rfl

/-- No endpoint declares a hook twice. -/
theorem nodup_hooks (e : Endpoint) : e.hooks.Nodup := by
  cases e with
  | topology handler => exact (by decide : topologyHooks.Nodup)
  | lifecycle handler => exact List.nodup_singleton handler.hook

/-- An endpoint answers to a name for those hooks that it declares and is offered for under this
name. -/
theorem answersTo_iff {e : Endpoint} {hook : Hook} {name : String} :
    e.answersTo hook name = true ↔ hook ∈ e.hooks ∧ discoveryName e.name hook = name := by
  unfold answersTo
  rw [Bool.and_eq_true, List.contains_iff_mem, beq_iff_eq]

end Endpoint

/-- Whether discovery lists a name for a hook. -/
def DiscoveryResponse.Lists (r : DiscoveryResponse) (hook : Hook) (name : String) : Prop :=
  ∃ entry ∈ r.handlers, entry.name = name ∧ entry.requestHook.hook = hook.name

namespace EndpointTable

variable {t : EndpointTable} {e : Endpoint} {hook : Hook} {name : String}

/-! ## What is offered -/

/-- The endpoints with the hooks that they are offered for, in the order of discovery. -/
def offered (t : EndpointTable) : List (Endpoint × Hook) :=
  t.endpoints.flatMap fun e => e.hooks.map fun hook => (e, hook)

/-- The name of an offer. -/
def offeredName (o : Endpoint × Hook) : String := Endpoint.discoveryName o.1.name o.2

/-- Whether no name is offered twice. -/
def Distinct (t : EndpointTable) : Prop := (t.offered.map offeredName).Nodup

/-- Offered are all registered endpoints with all hooks that they declare. -/
theorem mem_offered : (e, hook) ∈ t.offered ↔ e ∈ t.endpoints ∧ hook ∈ e.hooks := by
  unfold offered
  rw [List.mem_flatMap]
  constructor
  · rintro ⟨e', he, hmem⟩
    obtain ⟨hook', hhook, heq⟩ := List.mem_map.1 hmem
    cases heq
    exact ⟨he, hhook⟩
  · rintro ⟨he, hhook⟩
    exact ⟨e, he, List.mem_map_of_mem hhook⟩

/-- Discovery lists one entry for each offer, in the same order. -/
theorem handlers_discovery (t : EndpointTable) :
    t.discovery.handlers = t.offered.map fun o => t.offer o.1 o.2 := by
  show t.endpoints.flatMap (fun e => e.hooks.map (t.offer e)) = _
  unfold offered
  rw [List.map_flatMap]
  simp only [List.map_map, Function.comp_def]

/-- The names in discovery are the names of the offers, in the same order. -/
theorem names_discovery (t : EndpointTable) :
    t.discovery.handlers.map (·.name) = t.offered.map offeredName := by
  rw [handlers_discovery, List.map_map]
  rfl

/-! ## Looking up -/

/-- An endpoint is found for a hook and a name exactly if there is such an offer. -/
theorem isSome_find?_iff : (t.find? hook name).isSome = true ↔
    ∃ e, (e, hook) ∈ t.offered ∧ offeredName (e, hook) = name := by
  unfold find?
  rw [List.find?_isSome]
  constructor
  · rintro ⟨e, he, hanswers⟩
    obtain ⟨hhook, hname⟩ := Endpoint.answersTo_iff.1 hanswers
    exact ⟨e, mem_offered.2 ⟨he, hhook⟩, hname⟩
  · rintro ⟨e, hoffered, hname⟩
    obtain ⟨he, hhook⟩ := mem_offered.1 hoffered
    exact ⟨e, he, Endpoint.answersTo_iff.2 ⟨hhook, hname⟩⟩

/-- If no name is offered twice, looking up finds what is offered. -/
theorem Distinct.find?_eq_some_iff (h : t.Distinct) :
    t.find? hook name = some e ↔ (e, hook) ∈ t.offered ∧ offeredName (e, hook) = name := by
  have hfound : ∀ {e}, t.find? hook name = some e →
      (e, hook) ∈ t.offered ∧ offeredName (e, hook) = name := by
    intro e he
    unfold find? at he
    have hanswers := List.find?_some he
    obtain ⟨hhook, hname⟩ := Endpoint.answersTo_iff.1 hanswers
    exact ⟨mem_offered.2 ⟨List.mem_of_find?_eq_some he, hhook⟩, hname⟩
  constructor
  · exact hfound
  · rintro ⟨hoffered, hname⟩
    obtain ⟨e', he'⟩ := Option.isSome_iff_exists.1 (isSome_find?_iff.2 ⟨e, hoffered, hname⟩)
    obtain ⟨hoffered', hname'⟩ := hfound he'
    have hsame := List.inj_on_of_nodup_map h hoffered' hoffered (hname'.trans hname.symm)
    cases hsame
    exact he'

/-- A name for a hook is taken exactly if it is offered, for whatever hook. -/
theorem isSome_find?_discoveryName_iff {own : String} :
    (t.find? hook (Endpoint.discoveryName own hook)).isSome = true ↔
      Endpoint.discoveryName own hook ∈ t.offered.map offeredName := by
  rw [isSome_find?_iff, List.mem_map]
  constructor
  · rintro ⟨e, hoffered, hname⟩
    exact ⟨(e, hook), hoffered, hname⟩
  · rintro ⟨⟨e, hook'⟩, hoffered, hname⟩
    obtain ⟨-, rfl⟩ := Endpoint.discoveryName_inj.1 hname
    exact ⟨e, hoffered, hname⟩

/-! ## Registrations -/

/-- A table after a registration, and why it was refused if it was. -/
def attempt (t : EndpointTable) (e : Endpoint) : EndpointTable × Option RequestError :=
  match t.register e with
  | .ok t' => (t', none)
  | .error error => (t, some error)

/-- A table after some registrations, of which some may be refused. -/
def attempts (t : EndpointTable) (es : List Endpoint) : EndpointTable :=
  es.foldl (fun t e => (t.attempt e).1) t

/-- The table with one more endpoint. -/
def adding (t : EndpointTable) (e : Endpoint) : EndpointTable :=
  { t with endpoints := t.endpoints ++ [e] }

/-- One more endpoint is offered behind all others, for each of its hooks. -/
theorem offered_adding (t : EndpointTable) (e : Endpoint) :
    (t.adding e).offered = t.offered ++ e.hooks.map fun hook => (e, hook) := by
  unfold offered adding
  rw [List.flatMap_append, List.flatMap_singleton]

/-- An endpoint is refused exactly if one of its names is offered; it is added otherwise. -/
theorem attempt_cases (t : EndpointTable) (e : Endpoint) :
    (∃ hook ∈ e.hooks, Endpoint.discoveryName e.name hook ∈ t.offered.map offeredName ∧
      t.attempt e = (t, some (.config (.registeredTwice e.name hook.name)))) ∨
    (∀ hook ∈ e.hooks, Endpoint.discoveryName e.name hook ∉ t.offered.map offeredName) ∧
      t.attempt e = (t.adding e, none) := by
  cases htaken : t.taken? e with
  | some hook =>
    have hfound := List.find?_some htaken
    refine Or.inl ⟨hook, List.mem_of_find?_eq_some htaken, ?_, ?_⟩
    · exact isSome_find?_discoveryName_iff.1 hfound
    · unfold attempt register
      rw [htaken]
  | none =>
    refine Or.inr ⟨fun hook hhook hmem => ?_, ?_⟩
    · exact List.find?_eq_none.1 htaken hook hhook (isSome_find?_discoveryName_iff.2 hmem)
    · unfold attempt register
      rw [htaken]
      rfl

/-- In the empty table no name is offered twice. -/
theorem distinct_empty (timeoutSeconds : Unsigned32) (failurePolicy : FailurePolicy) :
    (empty timeoutSeconds failurePolicy).Distinct := List.nodup_nil

/-- Every registration keeps the names distinct, whether it is refused or not. -/
theorem Distinct.attempt (h : t.Distinct) (e : Endpoint) : (t.attempt e).1.Distinct := by
  rcases t.attempt_cases e with ⟨hook, -, -, heq⟩ | ⟨hnew, heq⟩
  · rw [heq]
    exact h
  · rw [heq]
    show ((t.adding e).offered.map offeredName).Nodup
    rw [offered_adding, List.map_append, List.map_map]
    apply List.Nodup.append h
    · apply e.nodup_hooks.map
      intro hook hook' hname
      exact (Endpoint.discoveryName_inj.1 hname).2
    · intro name hold hown
      obtain ⟨hook, hhook, rfl⟩ := List.mem_map.1 hown
      exact hnew hook hhook hold

/-- Whatever is registered, accepted or refused, no name becomes offered twice. -/
theorem Distinct.attempts (h : t.Distinct) (es : List Endpoint) : (t.attempts es).Distinct := by
  induction es generalizing t with
  | nil => exact h
  | cons e rest ih => exact ih (h.attempt e)

/-! ## Entries of discovery -/

/-- Whether an entry of discovery, told by its number, lists a name for a hook and stands for an
endpoint. -/
def Stands (t : EndpointTable) (i : Nat) (e : Endpoint) (hook : Hook) (name : String) : Prop :=
  t.offered[i]? = some (e, hook) ∧
    ∃ entry, t.discovery.handlers[i]? = some entry ∧ entry.name = name ∧
      entry.requestHook.hook = hook.name

/-- Discovery lists a hook under a name exactly if there is such an offer. -/
theorem lists_discovery_iff : t.discovery.Lists hook name ↔
    ∃ e, (e, hook) ∈ t.offered ∧ offeredName (e, hook) = name := by
  unfold DiscoveryResponse.Lists
  rw [handlers_discovery]
  constructor
  · rintro ⟨entry, hentry, hname, hhook⟩
    obtain ⟨⟨e, hook'⟩, hoffered, rfl⟩ := List.mem_map.1 hentry
    obtain rfl := Hook.name_injective hhook
    exact ⟨e, hoffered, hname⟩
  · rintro ⟨e, hoffered, hname⟩
    exact ⟨t.offer e hook, List.mem_map.2 ⟨(e, hook), hoffered, rfl⟩, hname, rfl⟩

/-- What stands at a place of discovery is what is offered at this place. -/
theorem stands_iff {i : Nat} : t.Stands i e hook name ↔
    t.offered[i]? = some (e, hook) ∧ offeredName (e, hook) = name := by
  unfold Stands
  rw [handlers_discovery]
  refine and_congr_right fun hoffered => ?_
  rw [List.getElem?_map, hoffered]
  constructor
  · rintro ⟨entry, hentry, hname, -⟩
    cases hentry
    exact hname
  · intro hname
    exact ⟨t.offer e hook, rfl, hname, rfl⟩

/-- An endpoint is refused exactly if discovery lists one of its names for the same hook. -/
theorem exists_error_attempt_iff : (∃ error, (t.attempt e).2 = some error) ↔
    ∃ hook ∈ e.hooks, t.discovery.Lists hook (Endpoint.discoveryName e.name hook) := by
  have hlists : ∀ hook, t.discovery.Lists hook (Endpoint.discoveryName e.name hook) ↔
      Endpoint.discoveryName e.name hook ∈ t.offered.map offeredName := by
    intro hook
    rw [lists_discovery_iff, ← isSome_find?_iff, isSome_find?_discoveryName_iff]
  simp only [hlists]
  rcases t.attempt_cases e with ⟨hook, hhook, hmem, heq⟩ | ⟨hnew, heq⟩
  · rw [heq]
    exact ⟨fun _ => ⟨hook, hhook, hmem⟩, fun _ => ⟨_, rfl⟩⟩
  · rw [heq]
    constructor
    · rintro ⟨error, ⟨⟩⟩
    · rintro ⟨hook, hhook, hmem⟩
      exact absurd hmem (hnew hook hhook)

/-- A refused registration leaves the table as it is. -/
theorem attempt_of_error {error : RequestError} (h : (t.attempt e).2 = some error) :
    (t.attempt e).1 = t := by
  rcases t.attempt_cases e with ⟨hook, -, -, heq⟩ | ⟨-, heq⟩
  · rw [heq]
  · rw [heq] at h
    cases h

/-- An accepted registration puts the entries of the endpoint behind those that discovery lists. -/
theorem handlers_attempt (h : (t.attempt e).2 = none) :
    (t.attempt e).1.discovery.handlers = t.discovery.handlers ++ e.hooks.map (t.offer e) := by
  rcases t.attempt_cases e with ⟨hook, -, -, heq⟩ | ⟨-, heq⟩
  · rw [heq] at h
    cases h
  · rw [heq, handlers_discovery, handlers_discovery, offered_adding, List.map_append, List.map_map]
    rfl

/-- After any registrations, of which some may be refused, the names in discovery are distinct, a
name is found for a hook exactly if discovery lists both, and what is found is the endpoint that the
entry stands for. One more registration is refused exactly if discovery lists one of its names for
the same hook; then discovery and all look-ups stay as they are, and otherwise discovery grows by
what the endpoint offers. -/
theorem discovery_attempts (timeoutSeconds : Unsigned32) (failurePolicy : FailurePolicy)
    (es : List Endpoint) :
    let t := (empty timeoutSeconds failurePolicy).attempts es
    (t.discovery.handlers.map (·.name)).Nodup ∧
    (∀ hook name, (t.find? hook name).isSome = true ↔ t.discovery.Lists hook name) ∧
    (∀ hook name e, t.find? hook name = some e ↔ ∃ i, t.Stands i e hook name) ∧
    ∀ e,
      ((∃ error, (t.attempt e).2 = some error) ↔
        ∃ hook ∈ e.hooks, t.discovery.Lists hook (Endpoint.discoveryName e.name hook)) ∧
      (∀ error, (t.attempt e).2 = some error → (t.attempt e).1.discovery = t.discovery ∧
        ∀ hook name, (t.attempt e).1.find? hook name = t.find? hook name) ∧
      ((t.attempt e).2 = none →
        (t.attempt e).1.discovery.handlers = t.discovery.handlers ++ e.hooks.map (t.offer e)) := by
  intro t
  have hdistinct : t.Distinct := (distinct_empty timeoutSeconds failurePolicy).attempts es
  refine ⟨?_, ?_, ?_, fun e => ⟨exists_error_attempt_iff, fun error herror => ?_, handlers_attempt⟩⟩
  · rw [names_discovery]
    exact hdistinct
  · intro hook name
    rw [isSome_find?_iff, lists_discovery_iff]
  · intro hook name e
    simp only [hdistinct.find?_eq_some_iff, stands_iff, List.mem_iff_getElem?, exists_and_right]
  · rw [attempt_of_error herror]
    exact ⟨rfl, fun _ _ => rfl⟩

end EndpointTable

end TopologyHooks
