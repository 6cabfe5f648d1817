import Mathlib.Data.List.Nodup
import TopologyHooks.Proofs.Json.Ordered
import TopologyHooks.Proofs.Variable.Resolution

/-!
# Merge patches

* `Json.mergePatch` — a value after a merge patch: an object is merged in member by member, null
  drops a member, and any other value replaces what was there, arrays included.
* `Json.member?_mergePatch` — what becomes of one member depends on that member of both values
  alone.
* `Json.memberAt?_mergePatch_nest` — a patch that names one path sets the value at that path, and
  `Json.at?_mergePatch_nest_of_diverge` says that it leaves all others alone.
-/

set_option autoImplicit false

namespace TopologyHooks

namespace Json

/-- The members of an object; other values have none. -/
def members : Json → List (String × Json)
  | .obj ms => ms
  | _ => []

mutual

/-- A value after a merge patch. -/
def mergePatch (target : Json) : Json → Json
  | .obj patch => .obj (mergeMembers target.members patch)
  | patch => patch

/-- Members after the members of a merge patch, one after the other. A member that is not there yet
is merged into null. -/
def mergeMembers (target : List (String × Json)) : List (String × Json) → List (String × Json)
  | [] => target
  | (key, patch) :: rest =>
    let value := mergePatch ((Assoc.get? key target).getD .null) patch
    mergeMembers (if patch = .null then Assoc.erase key target else Assoc.insert key value target)
      rest

end

variable {value : Json}

/-- A member is looked up among all members. -/
theorem member?_eq_get? (j : Json) (key : String) : j.member? key = Assoc.get? key j.members := by
  cases j <;> rfl

/-- What a member becomes when a merge patch has `patch?` for it. -/
def mergedMember (target? : Option Json) : Option Json → Option Json
  | none => target?
  | some patch => if patch = .null then none else some (mergePatch (target?.getD .null) patch)

/-- A member after a patch without repeated keys is what the patch makes of the member before. -/
theorem get?_mergeMembers (key : String) : ∀ {patch : List (String × Json)},
    (patch.map Prod.fst).Nodup → ∀ target : List (String × Json),
      Assoc.get? key (mergeMembers target patch) =
        mergedMember (Assoc.get? key target) (Assoc.get? key patch)
  | [], _, target => by
    rw [mergeMembers]
    rfl
  | (k, p) :: rest, h, target => by
    obtain ⟨hk, hrest⟩ := List.nodup_cons.1 h
    rw [mergeMembers, get?_mergeMembers key hrest, Assoc.get?]
    by_cases hkey : k = key
    · subst hkey
      -- the members behind this one leave the key alone
      rw [Assoc.get?_eq_none_iff.2 hk, if_pos rfl]
      show Assoc.get? k _ = if p = .null then none else some _
      split
      · rw [Assoc.get?_erase, if_pos rfl]
      · rw [Assoc.get?_insert, if_pos rfl]
    · rw [if_neg hkey]
      congr 1
      split
      · rw [Assoc.get?_erase, if_neg hkey]
      · rw [Assoc.get?_insert, if_neg hkey]

/-- A member after a merge patch without repeated keys. -/
theorem member?_mergePatch {ms : List (String × Json)} (h : (ms.map Prod.fst).Nodup)
    (target : Json) (key : String) :
    (target.mergePatch (.obj ms)).member? key =
      mergedMember (target.member? key) (Assoc.get? key ms) := by
  rw [mergePatch, member?_eq_get? target]
  exact get?_mergeMembers key h target.members

/-- The value at the end of a path that nothing branches off. -/
def nest (value : Json) : List String → Json
  | [] => value
  | key :: path => .obj [(key, nest value path)]

/-- A value inside of objects is no null if the value itself is none. -/
theorem nest_ne_null (h : value ≠ .null) : ∀ path, nest value path ≠ .null
  | [] => h
  | _ :: _ => nofun

/-- A merge patch that names one path changes the first member on it, and no other. -/
theorem member?_mergePatch_nest (h : value ≠ .null) (target : Json) (key other : String)
    (path : List String) :
    (target.mergePatch (nest value (key :: path))).member? other =
      if key = other then some (((target.member? key).getD .null).mergePatch (nest value path))
      else target.member? other := by
  have hkeys : ([(key, nest value path)].map Prod.fst).Nodup := List.nodup_singleton key
  rw [nest, member?_mergePatch hkeys, Assoc.get?]
  split
  · rename_i hkey
    subst hkey
    exact if_neg (nest_ne_null h path)
  · rfl

/-- A merge patch that names one path leaves its value there, if nothing is merged into that. -/
theorem memberAt?_mergePatch_nest (hnull : value ≠ .null)
    (hvalue : ∀ j : Json, j.mergePatch value = value) (path : List String) (target : Json) :
    (target.mergePatch (nest value path)).memberAt? path = some value := by
  induction path generalizing target with
  | nil =>
    show some (target.mergePatch value) = some value
    rw [hvalue]
  | cons key path ih =>
    rw [memberAt?, member?_mergePatch_nest hnull, if_pos rfl]
    exact ih _

/-- What a merge patch with members leads to is an object. -/
theorem child?_mergePatch_nest (target : Json) (key token : String) (path : List String) :
    (target.mergePatch (nest value (key :: path))).child? token =
      (target.mergePatch (nest value (key :: path))).member? token := by
  rw [nest, mergePatch]
  rfl

/-- Whether no list stands on the way to a path of members. -/
def ListFree : List String → Json → Prop
  | [], _ => True
  | key :: path, j =>
    (∀ items, j ≠ .arr items) ∧ ∀ child, j.member? key = some child → ListFree path child

/-- No path leads into a list of null. -/
theorem listFree_null : ∀ path : List String, ListFree path .null
  | [] => trivial
  | _ :: _ => ⟨nofun, nofun⟩

/-- No list stands on the way to a member. -/
theorem listFree_of_memberAt? {x : Json} : ∀ {path : List String} {j : Json},
    j.memberAt? path = some x → ListFree path j
  | [], _, _ => trivial
  | key :: path, j, h => by
    obtain ⟨child, hchild, hrest⟩ := Option.bind_eq_some_iff.1 h
    refine ⟨?_, fun other hother => ?_⟩
    · rintro items rfl
      cases hchild
    · obtain rfl := Option.some.inj (hother.symm.trans hchild)
      exact listFree_of_memberAt? hrest

/-- Nothing stands inside of null. -/
theorem at?_null {path : List String} (h : path ≠ []) : null.at? path = none := by
  cases path with
  | nil => exact absurd rfl h
  | cons key rest => rfl

/-- A merge patch that names one path leaves alone what stands at paths that part from it, if it
replaces no list on the way. -/
theorem at?_mergePatch_nest_of_diverge (hnull : value ≠ .null) : ∀ {path other : List String}
    {target : Json}, ListFree path target → Diverge path other →
      (target.mergePatch (nest value path)).at? other = target.at? other
  | [], _, _, _, h => absurd h not_diverge_nil_left
  | _ :: _, [], _, _, h => absurd h not_diverge_nil_right
  | key :: path, token :: other, target, ⟨hlist, hfree⟩, h => by
    have hmember : target.child? token = target.member? token := by
      cases target with
      | arr items => exact absurd rfl (hlist items)
      | _ => rfl
    rw [at?, at?, child?_mergePatch_nest, member?_mergePatch_nest hnull, hmember]
    split
    · rename_i hkey
      subst hkey
      have hrest := diverge_cons_self.1 h
      cases hchild : target.member? key with
      | none =>
        -- the patch makes the member, with nothing at the other path
        rw [Option.getD_none, Option.bind_some,
          at?_mergePatch_nest_of_diverge hnull (listFree_null path) hrest]
        exact at?_null fun hnil => not_diverge_nil_right (hnil ▸ hrest)
      | some child =>
        exact at?_mergePatch_nest_of_diverge hnull (hfree child hchild) hrest
    · rfl

end Json

end TopologyHooks
