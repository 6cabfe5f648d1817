import Mathlib.Data.Set.Card
import TopologyHooks.Proofs.Patch.Ledger
import TopologyHooks.Proofs.Upsert

/-!
# Patches that are tried one after the other

* `Ledger.attempts` — a ledger after some patches were tried, of which some may fail, and
  `Ledger.succeeded` — those of them that did not fail.
* `Ledger.Sound` — every object has one entry at most, and its steps lead from the object as it was
  received to the object as it is. Every patch keeps this, whether it fails or not.
* `Ledger.attempts_succeeded` — patches that fail change neither objects nor steps. All they leave
  is the place of their object in the answer: objects stand there in the order in which a patch was
  first tried on them (`Ledger.not_attempts_succeeded`).
-/

set_option autoImplicit false

namespace TopologyHooks

open Patch

namespace Ledger

variable {uid other : String} {json : Json} {patch : Patch} {failure : Patch.Failure}

/-! ## One patch -/

/-- A patch of one object leaves all others as they are. -/
theorem current_merge_of_ne (l : Ledger) (h : other ≠ uid) (received : Json) :
    (l.merge uid json patch).1.current other received = l.current other received := by
  rw [current, current, lookup?_merge_of_ne l h]

/-- A patch of one object leaves the steps of all others. -/
theorem operations_merge_of_ne (l : Ledger) (h : other ≠ uid) :
    (l.merge uid json patch).1.operations other = l.operations other := by
  rw [operations, operations, lookup?_merge_of_ne l h]

/-- After a patch that fails, the entry of its object says what could be told before. -/
theorem lookup?_mergeInto_of_failure : ∀ {entries : List Entry},
    (mergeInto uid json patch entries).2 = some failure →
    lookup? ⟨(mergeInto uid json patch entries).1⟩ uid =
      some ⟨uid, current ⟨entries⟩ uid json, operations ⟨entries⟩ uid⟩
  | [], h => by
    cases happ : patch.apply json with
    | ok new => simp [mergeInto, happ] at h
    | error f => simp [mergeInto, happ, lookup?, current, operations]
  | e :: rest, h => by
    by_cases he : e.uid = uid
    · subst he
      cases happ : patch.apply e.working with
      | ok new => simp [mergeInto, happ] at h
      | error f => simp [mergeInto, happ, lookup?, current, operations]
    · have hne : (e.uid == uid) = false := by simpa using he
      rw [mergeInto, if_neg he] at h ⊢
      have ih := lookup?_mergeInto_of_failure h
      simpa [lookup?, current, operations, hne] using ih

/-- A patch that fails leaves every object and its steps as they were. -/
theorem merge_of_failure {l : Ledger} (h : (l.merge uid json patch).2 = some failure) :
    (l.merge uid json patch).1.current uid json = l.current uid json ∧
      (l.merge uid json patch).1.operations uid = l.operations uid := by
  have hentry : (l.merge uid json patch).1.lookup? uid =
      some ⟨uid, l.current uid json, l.operations uid⟩ := lookup?_mergeInto_of_failure h
  rw [current, operations, hentry]
  exact ⟨rfl, rfl⟩

/-- A patch that can be run is run on the object, and its steps are appended. -/
theorem merge_of_run? {l : Ledger} {new : Json}
    (h : run? patch (l.current uid json) = some new) :
    (l.merge uid json patch).1.current uid json = new ∧
      (l.merge uid json patch).1.operations uid = l.operations uid ++ patch := by
  obtain ⟨-, hentry⟩ := lookup?_merge h
  rw [current, operations, hentry]
  exact ⟨rfl, rfl⟩

/-! ## Steps and objects belong together -/

variable {received : String → Json} {l l' : Ledger}

/-- Whether every object has one entry at most, and its steps lead from the object as it was
received to the object as it is. -/
structure Sound (received : String → Json) (l : Ledger) : Prop where
  distinct : l.Distinct
  replays : ∀ uid, run? (l.operations uid) (received uid) = some (l.current uid (received uid))

/-- An empty ledger is sound, whatever was received. -/
theorem sound_empty (received : String → Json) : empty.Sound received :=
  ⟨distinct_empty, fun _ => rfl⟩

/-- Every patch keeps steps and objects together, whether it fails or not. -/
theorem Sound.merge (h : l.Sound received) (uid : String) (patch : Patch) :
    (l.merge uid (received uid) patch).1.Sound received := by
  refine ⟨h.distinct.merge uid (received uid) patch, fun other => ?_⟩
  by_cases hne : other = uid
  · subst hne
    cases hf : (l.merge other (received other) patch).2 with
    | some f =>
      obtain ⟨hcurrent, hops⟩ := merge_of_failure hf
      rw [hcurrent, hops]
      exact h.replays other
    | none =>
      obtain ⟨new, hnew⟩ := run?_eq_some_of_merge hf
      obtain ⟨hcurrent, hops⟩ := merge_of_run? hnew
      rw [hcurrent, hops, run?_append, h.replays other]
      exact hnew
  · rw [current_merge_of_ne l hne, operations_merge_of_ne l hne]
    exact h.replays other

/-! ## Answers -/

/-- What is answered for an object, if it has steps. -/
def answer? (l : Ledger) (uid : String) : Option GeneratePatches.ResponseItem :=
  if l.operations uid = [] then none else some ⟨uid, .jsonPatch, patchBytes (l.operations uid)⟩

/-- The steps of an object are those of its entry. -/
theorem operations_of_mem (h : l.Distinct) {e : Entry} (he : e ∈ l.entries) :
    l.operations e.uid = e.operations := by
  have hfind : l.lookup? e.uid = some e := by
    cases hf : l.lookup? e.uid with
    | none => simpa using List.find?_eq_none.1 hf e he
    | some e' =>
      have hmem : e' ∈ l.entries := List.mem_of_find?_eq_some hf
      have huid : e'.uid = e.uid := by simpa using List.find?_some hf
      rw [List.inj_on_of_nodup_map h hmem he huid]
  rw [operations, hfind]

/-- The answer for a ledger lists its objects in the order of their entries. -/
theorem responseItems_eq_filterMap (h : l.Distinct) :
    l.responseItems = (l.entries.map Entry.uid).filterMap l.answer? := by
  have hall : ∀ e ∈ l.entries, l.answer? e.uid =
      if e.operations = [] then none else some ⟨e.uid, .jsonPatch, patchBytes e.operations⟩ := by
    intro e he
    rw [answer?, operations_of_mem h he]
  rw [List.filterMap_map, responseItems, patched]
  generalize l.entries = entries at hall ⊢
  induction entries with
  | nil => rfl
  | cons e rest ih =>
    obtain ⟨he, hrest⟩ := List.forall_mem_cons.1 hall
    have ih := ih hrest
    rw [List.filterMap_cons]
    simp only [Function.comp_apply, he]
    by_cases ho : e.operations = []
    · simpa [ho] using ih
    · simpa [ho] using ih

/-- The answer for a ledger consists of the answers for its objects. -/
theorem mem_responseItems_iff (h : l.Distinct) {i : GeneratePatches.ResponseItem} :
    i ∈ l.responseItems ↔ l.answer? i.uid = some i := by
  constructor
  · intro hi
    obtain ⟨e, he, rfl⟩ := List.mem_map.1 hi
    obtain ⟨he, hne⟩ := List.mem_filter.1 he
    rw [answer?, operations_of_mem h he]
    exact if_neg (by simpa using hne)
  · intro hi
    rw [responseItems_eq_filterMap h]
    refine List.mem_filterMap.2 ⟨i.uid, ?_, hi⟩
    by_contra hnot
    have hlookup : l.lookup? i.uid = none := by
      refine List.find?_eq_none.2 fun e he => ?_
      simpa using fun heq : e.uid = i.uid => hnot (heq ▸ List.mem_map_of_mem he)
    simp [answer?, operations, hlookup] at hi

/-- The answer for a ledger lists no object twice. -/
theorem nodup_responseItems (h : l.Distinct) : (l.responseItems.map (·.uid)).Nodup := by
  have hsub : (l.responseItems.map (·.uid)).Sublist (l.entries.map Entry.uid) := by
    rw [responseItems, List.map_map]
    exact List.filter_sublist.map _
  exact hsub.nodup h

/-- The answer for a ledger is as long as its size says. -/
theorem length_responseItems (l : Ledger) : l.responseItems.length = l.size := by
  rw [responseItems, List.length_map, size]

/-- The answer for a ledger lists an object exactly if there are steps for it. -/
theorem mem_uids_responseItems_iff (h : l.Distinct) :
    uid ∈ l.responseItems.map (·.uid) ↔ l.operations uid ≠ [] := by
  constructor
  · intro hmem
    obtain ⟨i, hi, rfl⟩ := List.mem_map.1 hmem
    intro hnil
    have hanswer := (mem_responseItems_iff h).1 hi
    rw [answer?, if_pos hnil] at hanswer
    cases hanswer
  · intro hne
    have hanswer : l.answer? uid = some ⟨uid, .jsonPatch, patchBytes (l.operations uid)⟩ :=
      if_neg hne
    exact List.mem_map.2 ⟨⟨uid, .jsonPatch, patchBytes (l.operations uid)⟩,
      (mem_responseItems_iff h).2 hanswer, rfl⟩

/-- The size of a ledger is the number of objects with steps. -/
theorem ncard_operations (h : l.Distinct) : {uid | l.operations uid ≠ []}.ncard = l.size := by
  have hset : {uid | l.operations uid ≠ []} =
      ((l.responseItems.map (·.uid)).toFinset : Set String) := by
    ext uid
    rw [Finset.mem_coe, List.mem_toFinset, mem_uids_responseItems_iff h, Set.mem_ofPred_eq]
  rw [hset, Set.ncard_coe_finset, List.toFinset_card_of_nodup (nodup_responseItems h),
    List.length_map, length_responseItems]

/-! ## Many patches -/

/-- A patch that is tried on an object. -/
structure Attempt where
  uid : String
  patch : Patch
  deriving DecidableEq

/-- A ledger after some patches were tried on the objects of a request. -/
def attempts (received : String → Json) (l : Ledger) (as : List Attempt) : Ledger :=
  as.foldl (fun l a => (l.merge a.uid (received a.uid) a.patch).1) l

/-- Those of some patches that do not fail when all are tried one after the other. -/
def succeeded (received : String → Json) : Ledger → List Attempt → List Attempt
  | _, [] => []
  | l, a :: rest =>
    match l.merge a.uid (received a.uid) a.patch with
    | (l, none) => a :: succeeded received l rest
    | (l, some _) => succeeded received l rest

/-- Any number of patches keep steps and objects together, whether they fail or not. -/
theorem Sound.attempts (h : l.Sound received) (as : List Attempt) :
    (l.attempts received as).Sound received := by
  induction as generalizing l with
  | nil => exact h
  | cons a rest ih => exact ih (h.merge a.uid a.patch)

/-- The objects of a ledger stand in the order in which a patch was first tried on them. -/
theorem map_uid_attempts (as : List Attempt) (l : Ledger) :
    (l.attempts received as).entries.map Entry.uid =
      appendAllNew (l.entries.map Entry.uid) (as.map Attempt.uid) := by
  induction as generalizing l with
  | nil => rfl
  | cons a rest ih =>
    have hmerge : (l.merge a.uid (received a.uid) a.patch).1.entries.map Entry.uid =
        appendNew (l.entries.map Entry.uid) a.uid :=
      map_uid_mergeInto a.uid (received a.uid) a.patch l.entries
    rw [List.map_cons, appendAllNew_cons, ← hmerge]
    exact ih _

/-! ## Ledgers that agree -/

/-- Whether two ledgers hold the same objects and steps. -/
structure Agrees (received : String → Json) (l l' : Ledger) : Prop where
  current : ∀ uid, l.current uid (received uid) = l'.current uid (received uid)
  operations : ∀ uid, l.operations uid = l'.operations uid

/-- A ledger agrees with itself. -/
theorem Agrees.refl (received : String → Json) (l : Ledger) : Agrees received l l :=
  ⟨fun _ => rfl, fun _ => rfl⟩

/-- Ledgers that agree have the same answer for each object. -/
theorem Agrees.answer? (h : Agrees received l l') : l.answer? = l'.answer? := by
  funext uid
  rw [Ledger.answer?, Ledger.answer?, h.operations uid]

/-- Ledgers that agree still do when only one object changes, and they hold the same of it. -/
theorem Agrees.update {m m' : Ledger} (h : Agrees received l l') (uid : String)
    (hcurrent : m.current uid (received uid) = m'.current uid (received uid))
    (hops : m.operations uid = m'.operations uid)
    (hl : ∀ other, other ≠ uid → m.lookup? other = l.lookup? other)
    (hl' : ∀ other, other ≠ uid → m'.lookup? other = l'.lookup? other) :
    Agrees received m m' := by
  refine ⟨fun other => ?_, fun other => ?_⟩
  · by_cases hne : other = uid
    · rw [hne, hcurrent]
    · have hagrees := h.current other
      rw [Ledger.current, Ledger.current] at hagrees ⊢
      rw [hl other hne, hl' other hne, hagrees]
  · by_cases hne : other = uid
    · rw [hne, hops]
    · have hagrees := h.operations other
      rw [Ledger.operations, Ledger.operations] at hagrees ⊢
      rw [hl other hne, hl' other hne, hagrees]

/-- A patch that does not fail for one of two ledgers that agree does not fail for the other one,
and they agree after it. -/
theorem Agrees.merge (h : Agrees received l l')
    (hok : (l.merge uid (received uid) patch).2 = none) :
    (l'.merge uid (received uid) patch).2 = none ∧
      Agrees received (l.merge uid (received uid) patch).1
        (l'.merge uid (received uid) patch).1 := by
  obtain ⟨new, hnew⟩ := run?_eq_some_of_merge hok
  have hnew' : run? patch (l'.current uid (received uid)) = some new := h.current uid ▸ hnew
  obtain ⟨hcurrent, hops⟩ := merge_of_run? hnew
  obtain ⟨hcurrent', hops'⟩ := merge_of_run? hnew'
  refine ⟨merge_eq_none_iff.2 ⟨new, hnew'⟩, h.update uid ?_ ?_ ?_ ?_⟩
  · rw [hcurrent, hcurrent']
  · rw [hops, hops', h.operations uid]
  · exact fun other hne => lookup?_merge_of_ne l hne
  · exact fun other hne => lookup?_merge_of_ne l' hne

/-- A ledger agrees with any other one after a patch that fails as it did before. -/
theorem Agrees.merge_of_failure (h : Agrees received l l')
    (hf : (l.merge uid (received uid) patch).2 = some failure) :
    Agrees received (l.merge uid (received uid) patch).1 l' := by
  obtain ⟨hcurrent, hops⟩ := Ledger.merge_of_failure hf
  refine h.update uid ?_ ?_ (fun other hne => lookup?_merge_of_ne l hne) fun _ _ => rfl
  · rw [hcurrent, h.current uid]
  · rw [hops, h.operations uid]

/-- Trying only those patches that do not fail, none of them fails, and the ledger agrees with the
one after all patches. -/
theorem Agrees.leaving_out (h : Agrees received l l') (as : List Attempt) :
    Agrees received (l.attempts received as) (l'.attempts received (succeeded received l as)) ∧
      succeeded received l' (succeeded received l as) = succeeded received l as := by
  induction as generalizing l l' with
  | nil => exact ⟨h, rfl⟩
  | cons a rest ih =>
    have hstep : l.attempts received (a :: rest) =
        (l.merge a.uid (received a.uid) a.patch).1.attempts received rest := rfl
    rw [hstep, succeeded]
    cases hm : l.merge a.uid (received a.uid) a.patch with
    | mk l₁ failure =>
      cases failure with
      -- a patch that succeeds is made in both ledgers
      | none =>
        obtain ⟨hok, hagrees⟩ := h.merge (congrArg Prod.snd hm)
        rw [hm] at hagrees
        obtain ⟨hrest, hkept⟩ := ih hagrees
        have hpair : l'.merge a.uid (received a.uid) a.patch =
            ((l'.merge a.uid (received a.uid) a.patch).1, none) := Prod.ext rfl hok
        refine ⟨hrest, ?_⟩
        rw [succeeded, hpair]
        exact congrArg (a :: ·) hkept
      -- one that fails changes nothing that they agree in
      | some f =>
        have hagrees := h.merge_of_failure (congrArg Prod.snd hm)
        rw [hm] at hagrees
        exact ih hagrees

/-- Patches that fail can be left out: the others succeed without them as well, every object and
its steps are the same, and as many objects have steps. The same patches are answered, but not
always in the same order: objects stand in the order in which a patch was first tried on them,
even if that one failed. -/
theorem attempts_succeeded (received : String → Json) (as : List Attempt) :
    succeeded received empty (succeeded received empty as) = succeeded received empty as ∧
    (∀ uid, (empty.attempts received as).operations uid =
      (empty.attempts received (succeeded received empty as)).operations uid) ∧
    (∀ uid, (empty.attempts received as).current uid (received uid) =
      (empty.attempts received (succeeded received empty as)).current uid (received uid)) ∧
    (empty.attempts received as).size =
      (empty.attempts received (succeeded received empty as)).size ∧
    (empty.attempts received as).isEmpty =
      (empty.attempts received (succeeded received empty as)).isEmpty ∧
    (empty.attempts received as).responseItems.Perm
      (empty.attempts received (succeeded received empty as)).responseItems ∧
    (empty.attempts received as).responseItems =
      (appendAllNew [] (as.map Attempt.uid)).filterMap
        (empty.attempts received (succeeded received empty as)).answer? := by
  obtain ⟨hagrees, hkept⟩ := (Agrees.refl received empty).leaving_out as
  have hd : (empty.attempts received as).Distinct := ((sound_empty received).attempts as).distinct
  have hd' : (empty.attempts received (succeeded received empty as)).Distinct :=
    ((sound_empty received).attempts _).distinct
  have hsize : (empty.attempts received as).size =
      (empty.attempts received (succeeded received empty as)).size := by
    rw [← ncard_operations hd, ← ncard_operations hd']
    simp only [hagrees.operations]
  refine ⟨hkept, hagrees.operations, hagrees.current, hsize, ?_, ?_, ?_⟩
  · rw [isEmpty, isEmpty, hsize]
  -- neither answer repeats an object, so it is enough that they have the same members
  · refine (List.perm_ext_iff_of_nodup (nodup_responseItems hd).of_map
      (nodup_responseItems hd').of_map).2 fun i => ?_
    rw [mem_responseItems_iff hd, mem_responseItems_iff hd', hagrees.answer?]
  · rw [responseItems_eq_filterMap hd, map_uid_attempts, hagrees.answer?]
    rfl

/-! ## The order of the answer -/

namespace Attempt

/-- A patch that removes what an empty object lacks. -/
def failing (uid : String) : Attempt := ⟨uid, [.remove ⟨["labels"]⟩]⟩

/-- A patch that can be applied to an empty object. -/
def working (uid : String) : Attempt := ⟨uid, [.add ⟨["labels"]⟩ (.obj [])]⟩

end Attempt

/-- An object on which the first patch fails stands before another one that is patched before it,
and after it without the patch that fails. -/
theorem not_attempts_succeeded : ¬ ∀ (received : String → Json) (as : List Attempt),
    (empty.attempts received as).responseItems =
      (empty.attempts received (succeeded received empty as)).responseItems := by
  intro h
  have horder := congrArg (List.map (·.uid))
    (h (fun _ => .obj []) [.failing "a", .working "b", .working "a"])
  exact absurd horder (by decide +kernel)

end Ledger

end TopologyHooks
