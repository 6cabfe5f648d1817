import TopologyHooks.Proofs.Variable.Resolution

/-!
# Writing inside variables

* `Variables.valueAt_set` — after a value was written at a path, the path leads to it.
* `Variables.get?_set_of_ne` — other variables stay.
* `Variables.get_set_of_diverge` — so does what stands at other paths of the same variable.
-/

set_option autoImplicit false

namespace TopologyHooks

namespace Variables

variable {vars vars' : Variables} {name other : String} {path path' : List String} {value : Json}

/-- A value that was put at a path stands there. -/
theorem memberAt?_put : ∀ {path : List String} {here : List String} {segment : String}
    {j new : Json}, put value here segment path j = (new, none) →
      new.memberAt? (segment :: path) = some value
  | [], here, segment, j, new, h => by
    rw [put] at h
    split at h
    · cases h
      rw [Json.memberAt?, Json.member?, Assoc.get?_insert, if_pos rfl]
      rfl
    · cases h
  | next :: rest, here, segment, j, new, h => by
    rw [put] at h
    split at h
    · rename_i members hmembers
      dsimp only at h
      cases hput : put value (here ++ [segment]) next rest
        ((Assoc.get? segment members).getD (.obj [])) with
      | mk child obstacle =>
        rw [hput] at h
        cases h
        rw [Json.memberAt?, Json.member?, Assoc.get?_insert, if_pos rfl]
        exact memberAt?_put hput
    · cases h

/-- Where a value was written, it is. -/
theorem memberAt?_set (h : vars.set name path value = (vars', none)) :
    ∃ root, vars'.get? name = some root ∧ root.memberAt? path = some value := by
  cases path with
  | nil =>
    cases h
    exact ⟨value, by rw [Dictionary.get?_insert, if_pos rfl], rfl⟩
  | cons segment rest =>
    unfold set at h
    dsimp only at h
    cases hput : put value [] segment rest ((vars.get? name).getD (.obj [])) with
    | mk root obstacle =>
      rw [hput] at h
      obtain ⟨rfl, hobstacle⟩ := Prod.mk.inj h
      obtain rfl := Option.map_eq_none_iff.1 hobstacle
      exact ⟨root, by rw [Dictionary.get?_insert, if_pos rfl], memberAt?_put hput⟩

/-- A value that was written and is not null is found. -/
theorem valueAt_set (h : vars.set name path value = (vars', none)) (hnull : value ≠ .null) :
    vars'.valueAt name path = .ok (some value) := by
  obtain ⟨root, hroot, hmember⟩ := memberAt?_set h
  exact valueAt_eq_some_iff.2 ⟨root, hroot, hmember, hnull⟩

/-- Writing inside a variable leaves the other ones alone, whether it succeeds or not. -/
theorem get?_set_of_ne (hne : other ≠ name) :
    (vars.set name path value).1.get? other = vars.get? other := by
  unfold set
  split
  · exact (Dictionary.get?_insert ..).trans (if_neg hne.symm)
  · exact (Dictionary.get?_insert ..).trans (if_neg hne.symm)

/-- Descending from members goes on behind the first key, if something is there. -/
theorem descend_members (here : List String) (members : List (String × Json)) (key : String)
    (path : List String) :
    descend here (.obj members) (key :: path) = (Assoc.get? key members).elim (.ok none)
      fun child => descend (here ++ [key]) child path := by
  rw [descend]
  cases Assoc.get? key members with
  | none => rfl
  | some child => rfl

/-- A value that can take members leads nowhere, or where its members lead. -/
theorem descend_of_members? {here : List String} {j : Json} {members : List (String × Json)}
    (h : members? j = some members) (key : String) (path : List String) :
    descend here j (key :: path) = descend here (.obj members) (key :: path) := by
  cases j with
  | null =>
    cases h
    rfl
  | obj ms =>
    cases h
    rfl
  | _ => cases h

/-- Writing at a path leaves alone what stands at paths that part from it, also if it fails on the
way. -/
theorem descend_put : ∀ {path path' : List String} {segment : String} {j : Json}
    (here here' : List String), Json.Diverge (segment :: path) path' →
      descend here' (put value here segment path j).1 path' = descend here' j path'
  | path, [], segment, j, here, here', h => absurd h Json.not_diverge_nil_right
  | [], key :: path', segment, j, here, here', h => by
    have hne : segment ≠ key := (Json.diverge_cons.1 h).resolve_right Json.not_diverge_nil_left
    rw [put]
    split
    · rename_i members hmembers
      rw [descend_of_members? hmembers, descend_members, descend_members, Assoc.get?_insert,
        if_neg hne]
    · rfl
  | next :: rest, key :: path', segment, j, here, here', h => by
    rw [put]
    split
    · rename_i members hmembers
      rw [descend_of_members? hmembers, descend_members, descend_members, Assoc.get?_insert]
      split
      · rename_i hkey
        subst hkey
        have hrest : Json.Diverge (next :: rest) path' := Json.diverge_cons_self.1 h
        show descend (here' ++ [segment]) (put value (here ++ [segment]) next rest
          ((Assoc.get? segment members).getD (.obj []))).1 path' = _
        rw [descend_put _ _ hrest]
        cases hchild : Assoc.get? segment members with
        | some child => rfl
        | none =>
          -- a new object leads nowhere, as the missing member did
          cases path' with
          | nil => exact absurd hrest Json.not_diverge_nil_right
          | cons key rest => exact descend_members _ [] key rest
      · rfl
    · rfl

/-- Looking up a value is descending from the value of its variable, and naming the variable in an
error. -/
theorem valueAt_eq (vars : Variables) (name : String) (path : List String) :
    vars.valueAt name path = (vars.get? name).elim (.ok none) fun root =>
      (descend [] root path).mapError fun obstacle => .variable name obstacle.1 obstacle.2 := by
  unfold valueAt
  cases vars.get? name with
  | none => rfl
  | some root =>
    dsimp only [Option.elim]
    cases descend [] root path with
    | ok found => rfl
    | error obstacle => rfl

/-- Writing inside a variable leaves alone what paths lead to that part from the one written at. -/
theorem valueAt_set_of_diverge (h : other = name → Json.Diverge path path') :
    (vars.set name path value).1.valueAt other path' = vars.valueAt other path' := by
  rw [valueAt_eq, valueAt_eq]
  by_cases hname : other = name
  · subst hname
    have hpath := h rfl
    cases path with
    | nil => exact absurd hpath Json.not_diverge_nil_left
    | cons segment rest =>
      have hset : (vars.set other (segment :: rest) value).1.get? other =
          some (put value [] segment rest ((vars.get? other).getD (.obj []))).1 :=
        (Dictionary.get?_insert ..).trans (if_pos rfl)
      rw [hset, Option.elim, descend_put _ _ hpath]
      cases vars.get? other with
      | some root => rfl
      | none =>
        -- the object that was created leads nowhere else
        cases path' with
        | nil => exact absurd hpath Json.not_diverge_nil_right
        | cons key path' => rfl
  · rw [get?_set_of_ne hname]

/-- The same for values that are read as a shape. -/
theorem get_set_of_diverge {α : Type} (shape : Shape α)
    (h : other = name → Json.Diverge path path') :
    (vars.set name path value).1.get shape other path' = vars.get shape other path' := by
  unfold get
  rw [valueAt_set_of_diverge h]

end Variables

end TopologyHooks
