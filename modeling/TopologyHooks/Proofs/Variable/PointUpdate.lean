import TopologyHooks.Proofs.Variable.Bindings
import TopologyHooks.Proofs.Variable.Update

/-!
# Writing inside variables is a point update

* `Variables.putAt` — writing at a path that may be empty, so that a step along a path is always the
  same (`Variables.putAt_cons`).
* `Variables.set_set_of_diverge` — what is written at two paths that part is the same in either
  order, whatever is in the way, and neither write puts anything in the way of the other.
* `Variables.set_point_update` — a successful write changes what its own path leads to and nothing
  else, and commutes with the writes at other places.
-/

set_option autoImplicit false

namespace TopologyHooks

/-- It does not matter which of two paths parts from the other. -/
theorem Json.Diverge.symm {p q : List String} (h : Json.Diverge p q) : Json.Diverge q p :=
  ⟨h.2, h.1⟩

/-- Entries of different keys can be inserted in either order. -/
theorem Assoc.insert_comm {α : Type} {key other : String} (hne : key ≠ other) (a b : α) :
    ∀ entries : List (String × α),
      insert key a (insert other b entries) = insert other b (insert key a entries) := by
  intro entries
  have hlt : ¬ key < other → other < key := fun h => lt_of_not_lt_of_ne h hne.symm
  induction entries with
  | nil => grind [insert, lt_trans, lt_irrefl]
  | cons e rest ih => grind [insert, lt_trans, lt_irrefl]

namespace Variables

variable {vars vars' : Variables} {name other : String} {path path' : List String}
  {value : Json}

/-- Writes a value at a path inside a value that stands at `here`. -/
def putAt (value : Json) (here : List String) : List String → Json → Json × Option Obstacle
  | [], _ => (value, none)
  | segment :: rest, j => put value here segment rest j

/-- To put a value at a path is to put it, within the first member, at the rest of the path. -/
theorem putAt_cons (value : Json) (here : List String) (segment : String) (rest : List String)
    (j : Json) : putAt value here (segment :: rest) j = (members? j).elim
      (j, some (here, .cannotSet segment)) fun members =>
        let child := putAt value (here ++ [segment]) rest
          ((Assoc.get? segment members).getD (.obj []))
        (.obj (Assoc.insert segment child.1 members), child.2) := by
  cases rest with
  | nil =>
    rw [putAt, put]
    cases members? j <;> rfl
  | cons next rest =>
    rw [putAt, put]
    cases members? j <;> rfl

/-- To set a value at a path is to put it there in the value of the variable, where a missing one
counts as an empty object. -/
theorem set_eq (vars : Variables) (name : String) (path : List String) (value : Json) :
    vars.set name path value =
      let root := putAt value [] path ((vars.get? name).getD (.obj []))
      (vars.insert name root.1,
        root.2.map fun obstacle => .variable name obstacle.1 obstacle.2) := by
  cases path <;> rfl

/-- Writes at paths that part do not meet. The induction is along both paths up to where they
part; there the two writes insert members of different keys. -/
theorem putAt_putAt (value value' : Json) :
    ∀ {path path' : List String} (here here' : List String) (j : Json),
    Json.Diverge path path' →
      (putAt value' here' path' (putAt value here path j).1).1 =
          (putAt value here path (putAt value' here' path' j).1).1 ∧
        (putAt value' here' path' (putAt value here path j).1).2 = (putAt value' here' path' j).2
  | [], _, _, _, _, h => absurd h Json.not_diverge_nil_left
  | _ :: _, [], _, _, _, h => absurd h Json.not_diverge_nil_right
  | key :: path, key' :: path', here, here', j, h => by
    rw [putAt_cons value here, putAt_cons value' here' key' path' j]
    cases hmembers : members? j with
    | none =>
      dsimp only [Option.elim]
      rw [putAt_cons, putAt_cons, hmembers]
      exact ⟨rfl, rfl⟩
    | some members =>
      dsimp only [Option.elim]
      rw [putAt_cons, putAt_cons]
      dsimp only [members?, Option.elim]
      by_cases hkey : key = key'
      · subst hkey
        -- both writes go on in the same child
        have hchild := putAt_putAt value value' (here ++ [key]) (here' ++ [key])
          ((Assoc.get? key members).getD (.obj [])) (Json.diverge_cons_self.1 h)
        simp only [Assoc.get?_insert, if_true, Option.getD_some, Assoc.insert_insert]
        exact ⟨by rw [hchild.1], hchild.2⟩
      · rw [Assoc.get?_insert, if_neg hkey, Assoc.get?_insert, if_neg (Ne.symm hkey)]
        exact ⟨by rw [Assoc.insert_comm (Ne.symm hkey)], rfl⟩

/-- Writes at different places give the same variables in either order, and the second one fails
exactly as it fails alone. -/
theorem set_set_of_diverge (vars : Variables) (value value' : Json)
    (h : other = name → Json.Diverge path path') :
    ((vars.set name path value).1.set other path' value').1 =
        ((vars.set other path' value').1.set name path value).1 ∧
      ((vars.set name path value).1.set other path' value').2 =
        (vars.set other path' value').2 := by
  by_cases hname : other = name
  · subst hname
    obtain ⟨hput, hobstacle⟩ := putAt_putAt value value' [] []
      ((vars.get? other).getD (.obj [])) (h rfl)
    simp only [set_eq, Dictionary.get?_insert, if_true, Option.getD_some]
    refine ⟨Dictionary.ext ?_, by rw [hobstacle]⟩
    show Assoc.insert _ _ (Assoc.insert _ _ _) = Assoc.insert _ _ (Assoc.insert _ _ _)
    rw [Assoc.insert_insert, Assoc.insert_insert, hput]
  · simp only [set_eq, Dictionary.get?_insert, if_neg hname, if_neg (Ne.symm hname)]
    exact ⟨Dictionary.ext (Assoc.insert_comm hname _ _ _), trivial⟩

/-- A path that leads to a null leads nowhere. -/
theorem descend_eq_none_of_memberAt? : ∀ {path : List String} (here : List String) {j : Json},
    j.memberAt? path = some .null → descend here j path = .ok none
  | [], _, _, h => by
    cases h
    rfl
  | key :: path, here, j, h => by
    obtain ⟨child, hchild, hrest⟩ := Option.bind_eq_some_iff.1 h
    cases j with
    | obj members =>
      have hget : Assoc.get? key members = some child := hchild
      rw [descend_members, hget]
      exact descend_eq_none_of_memberAt? _ hrest
    | _ => cases hchild

/-- A value that was written is found, and nothing is found if it is null. -/
theorem get_json_set (h : vars.set name path value = (vars', none)) :
    vars'.get .json name path = .ok (if value = .null then none else some value) := by
  obtain ⟨root, hroot, hmember⟩ := memberAt?_set h
  by_cases hnull : value = .null
  · subst hnull
    rw [if_pos rfl, get_eq_none_iff, valueAt_eq, hroot, Option.elim,
      descend_eq_none_of_memberAt? [] hmember]
    rfl
  · rw [if_neg hnull]
    exact get_eq_some_iff.2 ⟨value, valueAt_set h hnull, Shape.ofJson_json value⟩

/-- **A write is a point update.** What was written is found at its path, and nothing if it is null.
At every other place, which is a place in another variable or at a path that parts from the one
written at, what is found or fails stays as it was; a write there succeeds if and only if it did
before, and the two writes give the same variables in either order. -/
theorem set_point_update (h : vars.set name path value = (vars', none)) :
    vars'.get .json name path = .ok (if value = .null then none else some value) ∧
      ∀ (other : String) (path' : List String), (other = name → Json.Diverge path path') →
        vars'.get .json other path' = vars.get .json other path' ∧
          ∀ value' : Json,
            ((vars'.set other path' value').2 = none ↔ (vars.set other path' value').2 = none) ∧
            ∀ vars'', vars.set other path' value' = (vars'', none) →
              ∃ both, vars'.set other path' value' = (both, none) ∧
                vars''.set name path value = (both, none) := by
  refine ⟨get_json_set h, fun other path' hplace => ?_⟩
  have hvars : vars' = (vars.set name path value).1 := by rw [h]
  refine ⟨hvars ▸ get_set_of_diverge .json hplace, fun value' => ?_⟩
  have hplace' : name = other → Json.Diverge path' path := fun hname =>
    (hplace hname.symm).symm
  obtain ⟨hboth, hsecond⟩ := set_set_of_diverge vars value value' hplace
  have hfirst := (set_set_of_diverge vars value' value hplace').2
  rw [← hvars] at hboth hsecond
  refine ⟨by rw [hsecond], fun vars'' hset => ?_⟩
  rw [hset, h] at hfirst
  rw [hset] at hboth hsecond
  exact ⟨(vars'.set other path' value').1, Prod.ext rfl hsecond, Prod.ext hboth.symm hfirst⟩

/-- A write through a null, beside a text that can be read but not written through. -/
theorem set_point_update_proxy :
    let vars := ofList [⟨"net", .obj [("proxy", .null), ("zone", .str "a")], none⟩]
    let vars' := ofList
      [⟨"net", .obj [("proxy", .obj [("url", .str "p")]), ("zone", .str "a")], none⟩]
    vars.set "net" ["proxy", "url"] (.str "p") = (vars', none) ∧
      vars'.get .json "net" ["proxy", "url"] = .ok (some (.str "p")) ∧
      vars'.get .json "net" ["proxy", "port"] = vars.get .json "net" ["proxy", "port"] ∧
      vars'.get .json "net" ["zone", "id"] = vars.get .json "net" ["zone", "id"] ∧
      vars.get .json "net" ["zone", "id"] =
        .error (.variable "net" ["zone"] (.cannotDescend "id" (.str "a"))) ∧
      ((vars'.set "net" ["zone", "id"] .null).2 = none ↔
        (vars.set "net" ["zone", "id"] .null).2 = none) := by
  intro vars vars'
  have h : vars.set "net" ["proxy", "url"] (.str "p") = (vars', none) := rfl
  obtain ⟨hfound, hplaces⟩ := set_point_update h
  have hzone := hplaces "net" ["zone", "id"] fun _ => by decide
  exact ⟨h, hfound, (hplaces "net" ["proxy", "port"] fun _ => by decide).1, hzone.1, rfl,
    (hzone.2 .null).1⟩

end Variables

end TopologyHooks
