import Mathlib.Data.List.Nodup
import TopologyHooks.Patch.Ledger
import TopologyHooks.Proofs.Patch.Run

/-!
# What a ledger records

* `Ledger.lookup?_merge` — after a patch that can be run, the entry of its object holds the result
  and all steps; the other entries are as before (`Ledger.lookup?_merge_of_ne`).
* `Ledger.Distinct` — every object has one entry at most, which every patch preserves.
* `Ledger.carries_responseItems` — the answer made of such a ledger carries for each object the
  steps that led there, and nothing for an object without steps.
-/

set_option autoImplicit false

namespace TopologyHooks

open Patch

namespace Ledger

/-! ## Merging -/

/-- Whether every object has one entry at most. -/
def Distinct (l : Ledger) : Prop := (l.entries.map Entry.uid).Nodup

variable {uid other : String} {received new : Json} {patch : Patch}

/-- An empty ledger has no object twice. -/
theorem distinct_empty : empty.Distinct := List.nodup_nil

/-- A patch of an object keeps the order of all objects, and puts a new one behind them. -/
theorem map_uid_mergeInto (uid : String) (received : Json) (patch : Patch) :
    ∀ entries : List Entry, (mergeInto uid received patch entries).1.map Entry.uid =
      if uid ∈ entries.map Entry.uid then entries.map Entry.uid
      else entries.map Entry.uid ++ [uid]
  | [] => by
    rw [mergeInto]
    cases patch.apply received <;> rfl
  | e :: rest => by
    rw [mergeInto]
    by_cases he : e.uid = uid
    · rw [if_pos he, if_pos (by simp [he])]
      cases patch.apply e.working <;> rfl
    · rw [if_neg he, List.map_cons, map_uid_mergeInto uid received patch rest]
      have hmem : uid ∈ (e :: rest).map Entry.uid ↔ uid ∈ rest.map Entry.uid := by
        simp [Ne.symm he]
      by_cases hm : uid ∈ rest.map Entry.uid
      · rw [if_pos hm, if_pos (hmem.2 hm), List.map_cons]
      · rw [if_neg hm, if_neg (mt hmem.1 hm), List.map_cons, List.cons_append]

/-- A patch brings no object in twice. -/
theorem Distinct.merge {l : Ledger} (h : l.Distinct) (uid : String) (received : Json)
    (patch : Patch) : (l.merge uid received patch).1.Distinct := by
  have hmap := map_uid_mergeInto uid received patch l.entries
  unfold Distinct at h ⊢
  rw [Ledger.merge, hmap]
  split
  · exact h
  · rename_i hnot
    refine List.nodup_append.2 ⟨h, List.nodup_singleton uid, ?_⟩
    intro a ha b hb hab
    exact hnot (List.mem_singleton.1 hb ▸ hab ▸ ha)

/-- A patch of one object leaves the entry that is found for another. -/
theorem find?_mergeInto_of_ne (h : other ≠ uid) : ∀ entries : List Entry,
    (mergeInto uid received patch entries).1.find? (fun e => e.uid == other) =
      entries.find? fun e => e.uid == other
  | [] => by
    rw [mergeInto]
    cases patch.apply received <;> simp [Ne.symm h]
  | e :: rest => by
    rw [mergeInto]
    by_cases he : e.uid = uid
    · have hne : (e.uid == other) = false := by simpa [he] using Ne.symm h
      rw [if_pos he]
      cases patch.apply e.working <;> simp [hne]
    · rw [if_neg he]
      by_cases ho : e.uid = other
      · simp [ho]
      · simp [ho, find?_mergeInto_of_ne h rest]

/-- A patch of one object leaves the entries of the others. -/
theorem lookup?_merge_of_ne (l : Ledger) (h : other ≠ uid) :
    (l.merge uid received patch).1.lookup? other = l.lookup? other :=
  find?_mergeInto_of_ne h l.entries

/-- A patch that can be run on the object as it is succeeds, and its steps follow those of the
entry. -/
theorem mergeInto_of_run? : ∀ {entries : List Entry},
    run? patch (Ledger.current ⟨entries⟩ uid received) = some new →
    (mergeInto uid received patch entries).2 = none ∧
      (mergeInto uid received patch entries).1.find? (fun e => e.uid == uid) =
        some ⟨uid, new, Ledger.operations ⟨entries⟩ uid ++ patch⟩
  | [], h => by
    have happ : patch.apply received = .ok new := apply_eq_ok_iff.2 h
    simp [mergeInto, happ, operations, lookup?]
  | e :: rest, h => by
    by_cases he : e.uid = uid
    · subst he
      have happ : patch.apply e.working = .ok new :=
        apply_eq_ok_iff.2 (by simpa [current, lookup?] using h)
      simp [mergeInto, happ, operations, lookup?]
    · have hne : (e.uid == uid) = false := by simpa using he
      have hcurrent : current ⟨e :: rest⟩ uid received = current ⟨rest⟩ uid received := by
        simp [current, lookup?, hne]
      have hops : operations ⟨e :: rest⟩ uid = operations ⟨rest⟩ uid := by
        simp [operations, lookup?, hne]
      rw [hcurrent] at h
      obtain ⟨hnone, hfind⟩ := mergeInto_of_run? h
      rw [mergeInto, if_neg he, hops]
      exact ⟨hnone, by simpa [hne] using hfind⟩

/-- After a patch that can be run, the entry of its object holds the result and all steps. -/
theorem lookup?_merge {l : Ledger} (h : run? patch (l.current uid received) = some new) :
    (l.merge uid received patch).2 = none ∧
      (l.merge uid received patch).1.lookup? uid = some ⟨uid, new, l.operations uid ++ patch⟩ :=
  mergeInto_of_run? h

/-- A patch that succeeds can be run on the object as it is. -/
theorem run?_eq_some_of_mergeInto : ∀ {entries : List Entry},
    (mergeInto uid received patch entries).2 = none →
    ∃ new, run? patch (Ledger.current ⟨entries⟩ uid received) = some new
  | [], h => by
    cases happ : patch.apply received with
    | ok new => exact ⟨new, apply_eq_ok_iff.1 happ⟩
    | error f => simp [mergeInto, happ] at h
  | e :: rest, h => by
    by_cases he : e.uid = uid
    · cases happ : patch.apply e.working with
      | ok new =>
        exact ⟨new, by simpa [current, lookup?, he] using apply_eq_ok_iff.1 happ⟩
      | error f => simp [mergeInto, he, happ] at h
    · rw [mergeInto, if_neg he] at h
      obtain ⟨new, hnew⟩ := run?_eq_some_of_mergeInto h
      refine ⟨new, ?_⟩
      have hne : (e.uid == uid) = false := by simpa using he
      simpa [current, lookup?, hne] using hnew

/-- A patch fails unless it can be run. -/
theorem run?_eq_some_of_merge {l : Ledger} (h : (l.merge uid received patch).2 = none) :
    ∃ new, run? patch (l.current uid received) = some new :=
  run?_eq_some_of_mergeInto h

/-- A patch succeeds exactly if it can be run on the object as it is. -/
theorem merge_eq_none_iff {l : Ledger} :
    (l.merge uid received patch).2 = none ↔
      ∃ new, run? patch (l.current uid received) = some new := by
  constructor
  · exact run?_eq_some_of_merge
  · rintro ⟨new, hrun⟩
    exact (lookup?_merge hrun).1

/-! ## Answers -/

end Ledger

/-- Whether the items of an answer carry some steps for an object: one item with their bytes, or no
item if there are no steps. -/
def GeneratePatches.Carries (items : List GeneratePatches.ResponseItem) (uid : String)
    (patch : Patch) : Prop :=
  items.filter (fun i => i.uid == uid) =
    if patch = [] then [] else [⟨uid, .jsonPatch, Ledger.patchBytes patch⟩]

namespace Ledger

/-- An entry of another object has no steps for this one. -/
theorem operations_cons_of_ne {e : Entry} {entries : List Entry} {uid : String}
    (h : e.uid ≠ uid) : operations ⟨e :: entries⟩ uid = operations ⟨entries⟩ uid := by
  simp [operations, lookup?, h]

/-- The answer for a ledger has one item for an object with steps, and none for an object
without. -/
theorem filter_responseItems (uid : String) : ∀ {entries : List Entry},
    (entries.map Entry.uid).Nodup →
    (responseItems ⟨entries⟩).filter (fun i => i.uid == uid) =
      if operations ⟨entries⟩ uid = [] then []
      else [⟨uid, .jsonPatch, patchBytes (operations ⟨entries⟩ uid)⟩]
  | [], _ => rfl
  | e :: rest, h => by
    obtain ⟨hnot, hrest⟩ := List.nodup_cons.1 h
    have ih := filter_responseItems uid hrest
    have hsplit : responseItems ⟨e :: rest⟩ =
        (if e.operations = [] then [] else [⟨e.uid, .jsonPatch, patchBytes e.operations⟩]) ++
          responseItems ⟨rest⟩ := by
      by_cases ho : e.operations = [] <;> simp [responseItems, patched, ho]
    rw [hsplit, List.filter_append, ih]
    by_cases he : e.uid = uid
    -- no other entry is for the same object
    · have hops : operations ⟨rest⟩ uid = [] := by
        have hfind : lookup? ⟨rest⟩ uid = none :=
          List.find?_eq_none.2 fun x hx => by
            simpa using fun hu : x.uid = uid => hnot (he ▸ hu ▸ List.mem_map_of_mem hx)
        rw [operations, hfind]
      have hhead : operations ⟨e :: rest⟩ uid = e.operations := by
        simp [operations, lookup?, he]
      rw [hops, hhead]
      by_cases ho : e.operations = [] <;> simp [ho, he]
    · rw [operations_cons_of_ne he]
      by_cases ho : e.operations = [] <;> simp [ho, he]

/-- The answer made of a ledger carries the steps of every object. -/
theorem carries_responseItems {l : Ledger} (h : l.Distinct) (uid : String) :
    GeneratePatches.Carries l.responseItems uid (l.operations uid) :=
  filter_responseItems uid h

end Ledger

end TopologyHooks
