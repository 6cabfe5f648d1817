import TopologyHooks.Proofs.Json.Place

/-!
# Running patches

* `Patch.run?` — a value after all steps of a patch, if none fails; `Patch.apply_eq_ok_iff` says
  that this is what `Patch.apply` gives.
* `Patch.Operation.shift` — a step whose path starts further out. The difference of two values at
  a place is their difference, shifted there (`Patch.diffAt_eq_map_shift`), and running a shifted
  patch changes what stands under a token (`Patch.run?_shift`).
* `Patch.Operation.Plain` — the steps of a difference: they add, replace or remove.
-/

set_option autoImplicit false

namespace TopologyHooks

namespace Patch

open Operation

/-! ## Results of runs -/

/-- A value after one step, if it does not fail. -/
def Operation.step? (o : Operation) (doc : Json) : Option Json := (o.apply doc).toOption

/-- A value after all steps of a patch, if none fails. -/
def run? : Patch → Json → Option Json
  | [], doc => some doc
  | o :: rest, doc => (o.step? doc).bind (run? rest)

/-- A patch without steps leaves a value as it is. -/
@[simp] theorem run?_nil (doc : Json) : run? [] doc = some doc := rfl

/-- Two patches in a row run one after the other. -/
theorem run?_append (p q : Patch) (doc : Json) :
    run? (p ++ q) doc = (run? p doc).bind (run? q) := by
  induction p generalizing doc with
  | nil => rfl
  | cons o rest ih =>
    simp only [List.cons_append, run?, Option.bind_assoc]
    exact congrArg _ (funext ih)

/-- A patch can be applied exactly if it can be run, wherever the count of its steps begins. -/
theorem applyFrom_eq_ok_iff {patch : Patch} {index : Nat} {doc new : Json} :
    applyFrom index doc patch = .ok new ↔ run? patch doc = some new := by
  induction patch generalizing index doc with
  | nil => simp [applyFrom, run?]
  | cons o rest ih =>
    cases ho : o.apply doc with
    | error e => simp [applyFrom, run?, step?, ho, Except.toOption]
    | ok d => simpa [applyFrom, run?, step?, ho, Except.toOption] using ih

/-- A patch applies with a result if it runs to that result. -/
theorem apply_eq_ok_iff {patch : Patch} {doc new : Json} :
    patch.apply doc = .ok new ↔ run? patch doc = some new :=
  applyFrom_eq_ok_iff

/-- A reason for failing does not change whether there is a result. -/
@[simp] theorem toOption_orElse {α : Type} (reason : Reason) (r : Option α) :
    (orElse reason r).toOption = r := by
  cases r <;> rfl

/-! ## Shifted steps -/

namespace Operation

/-- The same step, with a path that starts further out. -/
def shift (outer : List String) : Operation → Operation
  | add path value => add ⟨outer ++ path.tokens⟩ value
  | remove path => remove ⟨outer ++ path.tokens⟩
  | replace path value => replace ⟨outer ++ path.tokens⟩ value
  | move source path => move ⟨outer ++ source.tokens⟩ ⟨outer ++ path.tokens⟩
  | copy source path => copy ⟨outer ++ source.tokens⟩ ⟨outer ++ path.tokens⟩
  | test path value => test ⟨outer ++ path.tokens⟩ value

/-- Whether a step replaces a value, or adds or removes one below the root. -/
def Plain : Operation → Prop
  | add path _ => path.tokens ≠ []
  | remove path => path.tokens ≠ []
  | replace _ _ => True
  | _ => False

/-- A plain step adds, replaces or removes. -/
theorem Plain.word_eq {o : Operation} (h : o.Plain) :
    o.word = "add" ∨ o.word = "replace" ∨ o.word = "remove" := by
  cases o <;> simp_all [Plain, word]

/-- To add is to add at the path. -/
theorem step?_add (path : Pointer) (value : Json) :
    (add path value).step? = Json.addAt? value path.tokens := by
  funext doc
  simp [step?, Operation.apply]

/-- To remove is to remove at the path. -/
theorem step?_remove (path : Pointer) : (remove path).step? = Json.removeAt? path.tokens := by
  funext doc
  simp [step?, Operation.apply]

/-- To replace is to replace at the path. -/
theorem step?_replace (path : Pointer) (value : Json) :
    (replace path value).step? = Json.replaceAt? value path.tokens := by
  funext doc
  simp [step?, Operation.apply]

/-- A plain step under a token changes what stands there. -/
theorem Plain.step?_shift {o : Operation} (h : o.Plain) (t : String) (doc : Json) :
    (o.shift [t]).step? doc = doc.within? t o.step? := by
  cases o with
  | add path value =>
    obtain ⟨_ | ⟨u, us⟩⟩ := path
    · exact absurd rfl h
    · simp only [shift, step?_add, List.singleton_append, Json.addAt?]
  | remove path =>
    obtain ⟨_ | ⟨u, us⟩⟩ := path
    · exact absurd rfl h
    · simp only [shift, step?_remove, List.singleton_append, Json.removeAt?]
  | replace path value =>
    simp only [shift, step?_replace, List.singleton_append, Json.replaceAt?]
  | move source path => exact h.elim
  | copy source path => exact h.elim
  | test path value => exact h.elim

end Operation

/-- A plain patch that is moved below a token runs within the child of that name. -/
theorem run?_shift {p : Patch} (hp : ∀ o ∈ p, o.Plain) (hne : p ≠ []) (t : String) (doc : Json) :
    run? (p.map (shift [t])) doc = doc.within? t (run? p) := by
  induction p generalizing doc with
  | nil => exact absurd rfl hne
  | cons o rest ih =>
    have ho : o.Plain := hp o List.mem_cons_self
    rcases rest with _ | ⟨o', rest⟩
    · have h1 : (run? [o] : Json → Option Json) = o.step? := by
        funext c
        simp [run?]
      rw [h1, List.map_cons, List.map_nil, run?, ho.step?_shift]
      cases doc.within? t o.step? <;> rfl
    · have hrest : ∀ o'' ∈ o' :: rest, o''.Plain := fun o'' h => hp o'' (List.mem_cons_of_mem _ h)
      have hstep : run? ((o' :: rest).map (shift [t])) = Json.within? t (run? (o' :: rest)) :=
        funext fun d => ih hrest (List.cons_ne_nil _ _) d
      rw [List.map_cons, run?, ho.step?_shift, hstep, Json.within?_within?]
      rfl

/-! ## Differences at a place -/

/-- The steps for members that are gone are the same at a deeper place, but for the place. -/
theorem diffGone_append (outer inner : List String) (new old : List (String × Json)) :
    diffGone ⟨outer ++ inner⟩ new old = (diffGone ⟨inner⟩ new old).map (shift outer) := by
  induction old with
  | nil => rfl
  | cons e rest ih =>
    obtain ⟨k, x⟩ := e
    by_cases hk : (Assoc.get? k new).isSome
    · rw [diffGone, if_pos hk, diffGone, if_pos hk, ih]
    · rw [diffGone, if_neg hk, diffGone, if_neg hk, ih]
      simp [shift, Pointer.push]

mutual

/-- The steps of a difference are the same at a deeper place, but for the place. -/
theorem diffAt_append (outer : List String) : ∀ (new : Json) (inner : List String) (old : Json),
    diffAt ⟨outer ++ inner⟩ old new = (diffAt ⟨inner⟩ old new).map (shift outer)
  | .null, inner, old => by simp only [diffAt]; split <;> simp [shift]
  | .bool b, inner, old => by simp only [diffAt]; split <;> simp [shift]
  | .num n, inner, old => by simp only [diffAt]; split <;> simp [shift]
  | .str s, inner, old => by simp only [diffAt]; split <;> simp [shift]
  | .arr new, inner, old => by
    cases old with
    | arr items => simp only [diffAt, diffItems_append outer new]
    | _ => simp [diffAt, shift]
  | .obj new, inner, old => by
    cases old with
    | obj members =>
      simp only [diffAt, diffMembers_append outer new, diffGone_append, List.map_append]
    | _ => simp [diffAt, shift]

/-- The steps for members are the same at a deeper place, but for the place. -/
theorem diffMembers_append (outer : List String) :
    ∀ (new : List (String × Json)) (inner : List String) (old : List (String × Json)),
    diffMembers ⟨outer ++ inner⟩ old new = (diffMembers ⟨inner⟩ old new).map (shift outer)
  | [], _, _ => by simp [diffMembers]
  | (k, x) :: rest, inner, old => by
    have hpush : Pointer.push ⟨outer ++ inner⟩ k = ⟨outer ++ (inner ++ [k])⟩ := by
      simp [Pointer.push]
    simp only [diffMembers, diffMembers_append outer rest inner old, List.map_append, hpush]
    cases Assoc.get? k old with
    | none => simp [shift, Pointer.push]
    | some y => simp only [diffAt_append outer x (inner ++ [k]) y]; rfl

/-- The steps for items are the same at a deeper place, but for the place. -/
theorem diffItems_append (outer : List String) :
    ∀ (new : List Json) (inner : List String) (index : Nat) (old : List Json),
    diffItems ⟨outer ++ inner⟩ index old new = (diffItems ⟨inner⟩ index old new).map (shift outer)
  | [], inner, index, old => by
    rw [diffItems, diffItems]
    simp [shift, Pointer.push]
  | x :: new, inner, index, [] => by
    simp only [diffItems, diffItems_append outer new inner (index + 1) [], List.map_cons]
    simp [shift, Pointer.push]
  | x :: new, inner, index, y :: old => by
    have hpush : Pointer.push ⟨outer ++ inner⟩ (toString index) =
        ⟨outer ++ (inner ++ [toString index])⟩ := by
      simp [Pointer.push]
    simp only [diffItems, diffItems_append outer new inner (index + 1) old, List.map_append,
      hpush, diffAt_append outer x (inner ++ [toString index]) y]
    rfl

end

/-- The difference at a place is the difference, shifted to that place. -/
theorem diffAt_eq_map_shift (path : List String) (old new : Json) :
    diffAt ⟨path⟩ old new = (diff old new).map (shift path) := by
  have h := diffAt_append path new [] old
  rwa [List.append_nil] at h

end Patch

end TopologyHooks
