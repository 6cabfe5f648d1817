import Mathlib.Data.List.Nodup
import TopologyHooks.Proofs.Patch.Difference

/-!
# Differences at one place

* `Patch.diff_obj_of_agree` — the difference of two objects that agree in all members but one.
* `Patch.diff_arr_append` — the difference of an array and a longer one that starts like it: items
  are added behind the last one, each at its own index.
* `Patch.run?_map_shift` — running a patch that was shifted to a place changes the value at that
  place, by running the patch there (`Json.changeAt?`).
-/

set_option autoImplicit false

namespace TopologyHooks

/-! ## Changing the value at a place -/

namespace Json

/-- Changes the value at a path. -/
def changeAt? : List String → (Json → Option Json) → Json → Option Json
  | [], f => f
  | t :: ts, f => within? t (changeAt? ts f)

variable {doc new c c' : Json} {f : Json → Option Json}

/-- What stands at a path is found along its first part and then along the rest. -/
theorem at?_append (j : Json) : ∀ path rest : List String,
    j.at? (path ++ rest) = (j.at? path).bind (at? · rest)
  | [], _ => rfl
  | t :: ts, rest => by
    rw [List.cons_append, at?, at?, Option.bind_assoc]
    exact congrArg _ (funext fun child => at?_append child ts rest)

/-- A change within a value changes the child of that name, which has to be there. -/
theorem exists_child?_of_within? {t : String} (h : doc.within? t f = some new) :
    ∃ c c', doc.child? t = some c ∧ f c = some c' ∧ new.child? t = some c' := by
  cases doc with
  | obj members =>
    cases hc : Assoc.get? t members with
    | none => simp [within?, hc] at h
    | some c =>
      simp only [within?, hc, Option.map_eq_some_iff] at h
      obtain ⟨c', hf, rfl⟩ := h
      exact ⟨c, c', hc, hf, by simp [child?, Assoc.get?_insert]⟩
  | arr items =>
    cases hi : Pointer.index? t with
    | none => simp [within?, hi] at h
    | some i =>
      cases hc : items[i]? with
      | none => simp [within?, hi, hc] at h
      | some c =>
        simp only [within?, hi, hc, Option.map_eq_some_iff] at h
        obtain ⟨c', hf, rfl⟩ := h
        obtain ⟨hlt, -⟩ := List.getElem?_eq_some_iff.1 hc
        exact ⟨c, c', by simp [child?, hi, hc], hf, by simp [child?, hi, hlt]⟩
  | _ => cases h

/-- A child that is there can be changed within the value. -/
theorem exists_within?_of_child? {t : String} (hc : doc.child? t = some c) (hf : f c = some c') :
    ∃ new, doc.within? t f = some new := by
  cases doc with
  | obj members =>
    have hget : Assoc.get? t members = some c := hc
    exact ⟨.obj (Assoc.insert t c' members), by simp [within?, hget, hf]⟩
  | arr items =>
    obtain ⟨i, hi, hget⟩ := Option.bind_eq_some_iff.1 hc
    exact ⟨.arr (items.set i c'), by simp [within?, hi, hget, hf]⟩
  | _ => cases hc

/-- A change at a path changes what stands there, which has to be there. -/
theorem exists_at?_of_changeAt? : ∀ {path : List String} {doc new : Json},
    changeAt? path f doc = some new →
    ∃ c c', doc.at? path = some c ∧ f c = some c' ∧ new.at? path = some c'
  | [], doc, new, h => ⟨doc, new, rfl, h, rfl⟩
  | t :: ts, doc, new, h => by
    obtain ⟨d, d', hd, hchange, hd'⟩ := exists_child?_of_within? h
    obtain ⟨c, c', hc, hf, hc'⟩ := exists_at?_of_changeAt? hchange
    exact ⟨c, c', by rw [at?, hd, Option.bind_some, hc], hf,
      by rw [at?, hd', Option.bind_some, hc']⟩

/-- What stands at a path can be changed there. -/
theorem exists_changeAt?_of_at? : ∀ {path : List String} {doc : Json},
    doc.at? path = some c → f c = some c' → ∃ new, changeAt? path f doc = some new
  | [], doc, hc, hf => by
    obtain rfl := Option.some.inj hc
    exact ⟨c', hf⟩
  | t :: ts, doc, hc, hf => by
    obtain ⟨d, hd, hrest⟩ := Option.bind_eq_some_iff.1 hc
    obtain ⟨d', hd'⟩ := exists_changeAt?_of_at? hrest hf
    exact exists_within?_of_child? hd hd'

end Json

namespace Patch

open Operation

/-! ## Running patches at a place -/

/-- To move a step by no path leaves it as it is. -/
theorem shift_nil (o : Operation) : o.shift [] = o := by
  cases o <;> rfl

/-- To move a step by one path and then by another is to move it by both. -/
theorem shift_shift (outer inner : List String) (o : Operation) :
    (o.shift inner).shift outer = o.shift (outer ++ inner) := by
  cases o <;> simp [shift]

/-- To move a patch by one path and then by another is to move it by both. -/
theorem map_shift_shift (outer inner : List String) (p : Patch) :
    (p.map (shift inner)).map (shift outer) = p.map (shift (outer ++ inner)) := by
  rw [List.map_map]
  exact List.map_congr_left fun o _ => shift_shift outer inner o

/-- A plain step that is moved is plain. -/
theorem Operation.Plain.shift {o : Operation} (h : o.Plain) (outer : List String) :
    (o.shift outer).Plain := by
  cases o <;> simp_all [Plain, Operation.shift]

/-- Running a patch that was shifted to a place runs it there. -/
theorem run?_map_shift {p : Patch} (hp : ∀ o ∈ p, o.Plain) (hne : p ≠ []) :
    ∀ (path : List String) (doc : Json),
      run? (p.map (shift path)) doc = doc.changeAt? path (run? p)
  | [], doc => by
    have hself : p.map (shift []) = p := List.map_id'' shift_nil p
    rw [hself, Json.changeAt?]
  | t :: ts, doc => by
    -- the first token is split off, so that `run?_shift` applies to the rest as a patch
    have hsplit : p.map (shift (t :: ts)) = (p.map (shift ts)).map (shift [t]) :=
      (map_shift_shift [t] ts p).symm
    have hplain : ∀ o ∈ p.map (shift ts), o.Plain := by
      intro o ho
      obtain ⟨o', ho', rfl⟩ := List.mem_map.1 ho
      exact (hp o' ho').shift ts
    rw [hsplit, run?_shift hplain (by simpa using hne), Json.changeAt?]
    exact congrArg (Json.within? t · doc) (funext (run?_map_shift hp hne ts))

/-- A patch that can be run on the value at a place can be run at that place. -/
theorem exists_run?_map_shift {p : Patch} (hp : ∀ o ∈ p, o.Plain) {path : List String}
    {doc c c' : Json} (hc : doc.at? path = some c) (hrun : run? p c = some c') :
    ∃ new, run? (p.map (shift path)) doc = some new ∧ new.at? path = some c' := by
  by_cases hne : p = []
  · subst hne
    obtain rfl := Option.some.inj hrun
    exact ⟨doc, rfl, hc⟩
  · obtain ⟨new, hnew⟩ := Json.exists_changeAt?_of_at? hc hrun
    obtain ⟨d, d', hd, hd', hat⟩ := Json.exists_at?_of_changeAt? hnew
    obtain rfl := Option.some.inj (hc.symm.trans hd)
    obtain rfl := Option.some.inj (hrun.symm.trans hd')
    exact ⟨new, by rw [run?_map_shift hp hne, hnew], hat⟩

/-! ## One member -/

/-- Two objects that agree in all members but one differ in that member. -/
theorem diff_obj_of_agree {xs ys : List (String × Json)} (hx : (Json.obj xs).Ordered)
    (hy : (Json.obj ys).Ordered) {key : String}
    (h : ∀ other, other ≠ key → Assoc.get? other xs = Assoc.get? other ys) :
    diff (.obj xs) (.obj ys) = memberDiff key (Assoc.get? key xs) (Assoc.get? key ys) := by
  obtain ⟨hxs, hxo⟩ := Json.ordered_obj.1 hx
  obtain ⟨hys, -⟩ := Json.ordered_obj.1 hy
  have hother (other : String) (hne : other ≠ key) :
      memberDiff other (Assoc.get? other xs) (Assoc.get? other ys) = [] := by
    rw [← h other hne]
    cases hget : Assoc.get? other xs with
    | none => rfl
    | some x => rw [memberDiff, diff_self (hxo other x hget), List.map_nil]
  rw [diff_obj hxs hys]
  by_cases hkey : key ∈ unionKeys xs ys
  · -- the key stands among all keys once, and the blocks of all others are empty
    obtain ⟨before, after, hsplit⟩ := List.append_of_mem hkey
    have hnodup := nodup_unionKeys hxs hys
    rw [hsplit, List.nodup_middle, List.nodup_cons, List.mem_append, not_or] at hnodup
    obtain ⟨⟨hbefore, hafter⟩, -⟩ := hnodup
    have hnil {keys : List String} (hk : key ∉ keys) :
        (keys.flatMap fun key => memberDiff key (Assoc.get? key xs) (Assoc.get? key ys)) = [] :=
      List.flatMap_eq_nil_iff.2 fun other hmem => hother other fun he => hk (he ▸ hmem)
    rw [hsplit, List.flatMap_append, List.flatMap_cons, hnil hbefore, hnil hafter, List.nil_append,
      List.append_nil]
  -- the key is in neither object, so there are no steps at all
  · obtain ⟨hxk, hyk⟩ := get?_eq_none_of_not_mem_unionKeys hkey
    rw [hxk, hyk, memberDiff, List.flatMap_eq_nil_iff]
    exact fun other hmem => hother other fun he => hkey (he ▸ hmem)

/-! ## More items -/

/-- The steps that add items to an array from a place on. -/
def addsFrom (index : Nat) (items : List Json) : Patch :=
  items.mapIdx fun i x => add ⟨[toString (index + i)]⟩ x

/-- Between no items and some, all steps add. -/
theorem diffItems_nil (items : List Json) : ∀ index : Nat,
    diffItems .root index [] items = addsFrom index items := by
  induction items with
  | nil => intro index; rfl
  | cons x items ih =>
    intro index
    rw [diffItems, ih, addsFrom, addsFrom, List.mapIdx_cons]
    simp [push_root, Nat.add_comm, Nat.add_left_comm]

/-- Between ordered items and more of them, the steps add those behind. -/
theorem diffItems_append_right (more : List Json) : ∀ {items : List Json} (index : Nat),
    (∀ x ∈ items, x.Ordered) →
    diffItems .root index items (items ++ more) = addsFrom (index + items.length) more
  | [], index, _ => diffItems_nil more index
  | x :: items, index, h => by
    obtain ⟨hx, hitems⟩ := List.forall_mem_cons.1 h
    rw [List.cons_append, diffItems, diffItems_append_right more (index + 1) hitems, push_root,
      diffAt_eq_map_shift, diff_self hx, List.map_nil, List.nil_append, List.length_cons,
      Nat.add_right_comm, Nat.add_assoc]

/-- An array and one that goes on behind its last item differ by what is added there. -/
theorem diff_arr_append {items : List Json} (h : (Json.arr items).Ordered) (more : List Json) :
    diff (.arr items) (.arr (items ++ more)) = addsFrom items.length more := by
  have hdiff := diffItems_append_right more 0 (Json.ordered_arr.1 h)
  rwa [Nat.zero_add] at hdiff

end Patch

end TopologyHooks
