import TopologyHooks.Proofs.Json.Ordered
import TopologyHooks.Proofs.Pointwise
import TopologyHooks.Proofs.Variable.PointUpdate

/-!
# What stands in the way of a path

* `Json.Impassable` — a value that no path leads on from. `Obstructs` says that such a value stands
  on a path before its end, and that none stands nearer to its beginning.
* `Variables.descend_eq_error_iff`, `Variables.putAt_obstacle_iff` — reading at a path and writing
  there are obstructed by the very same value, however much of the path is there.
* `Variables.putAt_eq_self` — what is obstructed stays: a write creates nothing before it has passed
  all that is there.
* `Variables.set_fails_iff` — a write fails exactly if the read at its place does, over the same
  value, and then leaves the variables alone.
-/

set_option autoImplicit false

namespace TopologyHooks

/-! ## Entries that are there already -/

/-- Giving a key the value that it has changes nothing. -/
theorem Assoc.insert_eq_self {α : Type} {key : String} {a : α} {entries : List (String × α)}
    (hs : Sorted entries) (h : get? key entries = some a) : insert key a entries = entries := by
  refine eq_of_get?_eq (sorted_insert key a hs) hs fun other => ?_
  rw [get?_insert]
  split
  · rename_i hother
    rw [← hother, h]
  · rfl

/-- Giving a key of a dictionary the value that it has changes nothing. -/
theorem Dictionary.insert_eq_self {α : Type} {d : Dictionary α} {key : String} {a : α}
    (h : d.get? key = some a) : d.insert key a = d :=
  Dictionary.ext (Assoc.insert_eq_self d.sorted h)

/-! ## Obstacles -/

/-- Whether no path leads on from a value: it is neither null nor an object. -/
def Json.Impassable (j : Json) : Prop := j ≠ .null ∧ ∀ members, j ≠ .obj members

/-- A value is impassable exactly if it has no members to look among. -/
theorem Json.impassable_iff {j : Json} : j.Impassable ↔ Variables.members? j = none := by
  cases j <;> simp [Impassable, Variables.members?]

/-- The member at a path is found along its first part and then along the rest. -/
theorem Json.memberAt?_append (p q : List String) (j : Json) :
    j.memberAt? (p ++ q) = (j.memberAt? p).bind (memberAt? · q) := by
  induction p generalizing j with
  | nil => rfl
  | cons key p ih =>
    rw [List.cons_append, memberAt?, memberAt?, Option.bind_assoc]
    exact congrArg _ (funext ih)

/-- Whether a value stands in the way of a path: the path leads to it and has to lead on, which it
cannot, and nothing in its way stands nearer to its beginning. -/
structure Obstructs (root : Json) (path here : List String) (segment : String) (found : Json) :
    Prop where
  ahead : here ++ [segment] <+: path
  leads : root.memberAt? here = some found
  impassable : found.Impassable
  shortest : ∀ nearer x, nearer <+: path → root.memberAt? nearer = some x → x.Impassable →
    here.length ≤ nearer.length

variable {root found value : Json} {path here : List String} {segment key : String}

/-- The first thing in the way of a path is the only one that the path leads to. -/
theorem Obstructs.of_leads (ahead : here ++ [segment] <+: path)
    (leads : root.memberAt? here = some found) (impassable : found.Impassable) :
    Obstructs root path here segment found := by
  refine ⟨ahead, leads, impassable, fun nearer x hnearer hx himpassable => ?_⟩
  by_contra hshort
  have hhere : here <+: path := (List.prefix_append here [segment]).trans ahead
  obtain ⟨rest, rfl⟩ := List.prefix_of_prefix_length_le hnearer hhere (Nat.le_of_not_le hshort)
  cases rest with
  | nil => exact hshort (Nat.le_of_eq (congrArg _ (List.append_nil nearer)))
  | cons key rest =>
    -- the path leads on from what stands nearer, which is thus an object
    rw [Json.memberAt?_append, hx, Option.bind_some, Json.memberAt?] at leads
    cases x with
    | obj members => exact himpassable.2 members rfl
    | _ => cases leads

/-- Nothing is in the way of the empty path. -/
theorem not_obstructs_nil : ¬ Obstructs root [] here segment found := by
  intro h
  have hnil := List.prefix_nil.1 h.ahead
  simp at hnil

/-- A path is obstructed at its beginning or behind its first member. -/
theorem obstructs_cons_iff : Obstructs root (key :: path) here segment found ↔
    (here = [] ∧ segment = key ∧ root = found ∧ root.Impassable) ∨
      ∃ child rest, root.member? key = some child ∧ here = key :: rest ∧
        Obstructs child path rest segment found := by
  constructor
  · intro h
    cases here with
    | nil =>
      obtain rfl : root = found := Option.some.inj h.leads
      exact .inl ⟨rfl, (List.cons_prefix_cons.1 h.ahead).1, rfl, h.impassable⟩
    | cons k rest =>
      obtain ⟨rfl, hahead⟩ := List.cons_prefix_cons.1 h.ahead
      obtain ⟨child, hchild, hleads⟩ := Option.bind_eq_some_iff.1 h.leads
      exact .inr ⟨child, rest, hchild, rfl, .of_leads hahead hleads h.impassable⟩
  · rintro (⟨rfl, rfl, rfl, himpassable⟩ | ⟨child, rest, hchild, rfl, h⟩)
    · exact .of_leads (List.cons_prefix_cons.2 ⟨rfl, List.nil_prefix⟩) rfl himpassable
    · refine .of_leads (List.cons_prefix_cons.2 ⟨rfl, h.ahead⟩) ?_ h.impassable
      rw [Json.memberAt?, hchild, Option.bind_some, h.leads]

namespace Variables

variable {vars : Variables} {name : String} {members : List (String × Json)} {child : Json}

/-- Where no path leads on, that is what obstructs it. -/
theorem obstructs_of_members?_eq_none (h : members? root = none) :
    Obstructs root (key :: path) here segment found ↔ here = [] ∧ segment = key ∧ root = found := by
  have himpassable := Json.impassable_iff.2 h
  have hmember : root.member? key = none := by
    cases root with
    | obj members => exact absurd rfl (himpassable.2 members)
    | _ => rfl
  rw [obstructs_cons_iff, hmember]
  simp [himpassable]

/-- Where a path can lead on, it is obstructed behind its next member, if at all. Null counts as an
empty object. -/
theorem obstructs_of_members?_eq_some (h : members? root = some members) :
    Obstructs root (key :: path) here segment found ↔ ∃ child rest,
      Assoc.get? key members = some child ∧ here = key :: rest ∧
        Obstructs child path rest segment found := by
  have hpassable : ¬ root.Impassable := by
    rw [Json.impassable_iff, h]
    exact Option.some_ne_none members
  have hmember : root.member? key = Assoc.get? key members := by
    cases root with
    | null =>
      cases h
      rfl
    | obj ms =>
      cases h
      rfl
    | _ => cases h
  rw [obstructs_cons_iff, hmember]
  simp [hpassable]

/-- What is in the way behind a member is what is in the way of the rest of the path. -/
theorem exists_obstructs_cons_iff {P : List String → String → Json → Prop}
    (h : members? root = some members) (hchild : Assoc.get? key members = some child) :
    (∃ here segment found, Obstructs root (key :: path) here segment found ∧
        P here segment found) ↔
      ∃ here segment found, Obstructs child path here segment found ∧
        P (key :: here) segment found := by
  simp only [obstructs_of_members?_eq_some h, hchild]
  constructor
  · rintro ⟨_, segment, found, ⟨_, here, ⟨⟩, rfl, h⟩, hP⟩
    exact ⟨here, segment, found, h, hP⟩
  · rintro ⟨here, segment, found, h, hP⟩
    exact ⟨key :: here, segment, found, ⟨child, here, rfl, rfl, h⟩, hP⟩

/-- Nothing obstructs a path in an object without members. -/
theorem not_obstructs_empty : ¬ Obstructs (.obj []) path here segment found := by
  intro h
  cases path with
  | nil => exact not_obstructs_nil h
  | cons key path =>
    obtain ⟨child, rest, hchild, -, -⟩ := (obstructs_of_members?_eq_some rfl).1 h
    cases hchild

/-! ## Reading and writing -/

/-- Descending from a value without members fails at once. -/
theorem descend_of_members?_eq_none (base : List String) (h : members? root = none) :
    descend base root (key :: path) = .error (base, .cannotDescend key root) := by
  cases root with
  | null => cases h
  | obj members => cases h
  | _ => rfl

/-- Reading at a path fails over what obstructs the path, and names where it stands. -/
theorem descend_eq_error_iff : ∀ {path : List String} {j : Json} {base : List String}
    {obstacle : Obstacle}, descend base j path = .error obstacle ↔
      ∃ here segment found, Obstructs j path here segment found ∧
        obstacle = (base ++ here, .cannotDescend segment found)
  | [], j, base, obstacle => by
    have hfound : descend base j [] ≠ .error obstacle := by cases j <;> exact nofun
    simp [hfound, not_obstructs_nil]
  | key :: path, j, base, obstacle => by
    cases hmembers : members? j with
    | none =>
      rw [descend_of_members?_eq_none base hmembers]
      simp [obstructs_of_members?_eq_none hmembers, eq_comm]
    | some members =>
      rw [descend_of_members? hmembers, descend_members]
      cases hchild : Assoc.get? key members with
      | none => simp [obstructs_of_members?_eq_some hmembers, hchild]
      | some child =>
        rw [exists_obstructs_cons_iff hmembers hchild]
        refine descend_eq_error_iff.trans ?_
        simp

/-- Writing at a path fails over what obstructs the path, and names where it stands. -/
theorem putAt_obstacle_iff (value : Json) : ∀ {path : List String} {j : Json} {base : List String}
    {obstacle : Obstacle}, (putAt value base path j).2 = some obstacle ↔
      ∃ here segment found, Obstructs j path here segment found ∧
        obstacle = (base ++ here, .cannotSet segment)
  | [], j, base, obstacle => by simp [putAt, not_obstructs_nil]
  | key :: path, j, base, obstacle => by
    rw [putAt_cons]
    cases hmembers : members? j with
    | none => simp [obstructs_of_members?_eq_none hmembers, eq_comm]
    | some members =>
      dsimp only [Option.elim]
      refine (putAt_obstacle_iff value).trans ?_
      cases hchild : Assoc.get? key members with
      | none => simp [obstructs_of_members?_eq_some hmembers, hchild, not_obstructs_empty]
      | some child =>
        rw [exists_obstructs_cons_iff hmembers hchild]
        simp

/-- What is obstructed stays. The induction is along what is there of the path: as long as a write
can still fail, each member that it enters is there already, and gets the value that it had. -/
theorem putAt_eq_self (value : Json) : ∀ {path here : List String} {j : Json} (base : List String),
    j.Ordered → Obstructs j path here segment found → (putAt value base path j).1 = j
  | [], _, _, _, _, h => absurd h not_obstructs_nil
  | key :: path, here, j, base, hj, h => by
    rw [putAt_cons]
    cases hmembers : members? j with
    | none => rfl
    | some members =>
      obtain ⟨child, rest, hchild, -, hrest⟩ := (obstructs_of_members?_eq_some hmembers).1 h
      obtain rfl : j = .obj members := by
        cases j with
        | null =>
          cases hmembers
          cases hchild
        | obj ms => rw [Option.some.inj hmembers]
        | _ => cases hmembers
      obtain ⟨hsorted, hordered⟩ := Json.ordered_obj.1 hj
      dsimp only [Option.elim]
      rw [hchild, Option.getD_some, putAt_eq_self value _ (hordered key child hchild) hrest,
        Assoc.insert_eq_self hsorted hchild]

/-! ## Variables -/

/-- Whether a value stands in the way of a path inside a variable. -/
def Obstructed (vars : Variables) (name : String) (path here : List String) (segment : String)
    (found : Json) : Prop :=
  ∃ root, vars.get? name = some root ∧ Obstructs root path here segment found

/-- An error is made of an obstacle, which is made of what stands in the way. -/
theorem exists_obstacle_iff {ε ε' : Type} {P : List String → String → Json → Prop}
    {obstacle : List String → String → Json → ε} {f : ε → ε'} {e : ε'} :
    (∃ x, (∃ here segment found, P here segment found ∧ x = obstacle here segment found) ∧
      f x = e) ↔
    ∃ here segment found, P here segment found ∧ e = f (obstacle here segment found) := by
  constructor
  · rintro ⟨-, ⟨here, segment, found, h, rfl⟩, rfl⟩
    exact ⟨here, segment, found, h, rfl⟩
  · rintro ⟨here, segment, found, h, rfl⟩
    exact ⟨_, ⟨here, segment, found, h, rfl⟩, rfl⟩

/-- Looking at a path fails over what obstructs the path. -/
theorem valueAt_eq_error_iff {e : Error} : vars.valueAt name path = .error e ↔
    ∃ here segment found, vars.Obstructed name path here segment found ∧
      e = .variable name here (.cannotDescend segment found) := by
  rw [valueAt_eq]
  unfold Obstructed
  cases vars.get? name with
  | none => simp
  | some root =>
    simp only [Option.elim, Option.some.injEq, exists_eq_left', mapError_eq_error_iff,
      descend_eq_error_iff]
    exact exists_obstacle_iff

/-- Reading JSON at a path fails exactly as looking it up does. -/
theorem get_json_eq_error_iff {e : Error} :
    vars.get .json name path = .error e ↔ vars.valueAt name path = .error e := by
  unfold get
  rcases vars.valueAt name path with e | _ | x
  · simp
  · simp
  · simp [Shape.ofJson_json]

/-- Setting a value at a path fails over what obstructs the path. -/
theorem set_eq_error_iff {e : Error} : (vars.set name path value).2 = some e ↔
    ∃ here segment found, vars.Obstructed name path here segment found ∧
      e = .variable name here (.cannotSet segment) := by
  have hset : (vars.set name path value).2 = some e ↔ ∃ here segment found,
      Obstructs ((vars.get? name).getD (.obj [])) path here segment found ∧
        e = .variable name here (.cannotSet segment) := by
    rw [set_eq]
    simp only [Option.map_eq_some_iff, putAt_obstacle_iff]
    exact exists_obstacle_iff
  rw [hset]
  unfold Obstructed
  cases vars.get? name with
  | none => simp [not_obstructs_empty]
  | some root => simp

/-- A variable with something in the way of a path is not changed by setting a value there. -/
theorem set_eq_self {here : List String} {segment : String} {found : Json}
    (hordered : ∀ root, vars.get? name = some root → root.Ordered)
    (h : vars.Obstructed name path here segment found) : (vars.set name path value).1 = vars := by
  obtain ⟨root, hroot, hobstructs⟩ := h
  rw [set_eq]
  dsimp only
  rw [hroot, Option.getD_some, putAt_eq_self value [] (hordered root hroot) hobstructs,
    Dictionary.insert_eq_self hroot]

/-- **A write fails exactly if the read at its place does**, whatever is written. Both fail over
the same value: the one at the shortest beginning of the path that leads to neither null nor an
object, which both errors name. The variables are then as before. -/
theorem set_fails_iff (hordered : ∀ root, vars.get? name = some root → root.Ordered) :
    ((vars.set name path value).2 ≠ none ↔ ∃ e, vars.get .json name path = .error e) ∧
      ∀ e, (vars.set name path value).2 = some e →
        (vars.set name path value).1 = vars ∧
        ∃ here segment found, vars.Obstructed name path here segment found ∧
          e = .variable name here (.cannotSet segment) ∧
          vars.get .json name path = .error (.variable name here (.cannotDescend segment found)) := by
  constructor
  · simp only [Option.ne_none_iff_exists', set_eq_error_iff, get_json_eq_error_iff,
      valueAt_eq_error_iff]
    constructor
    · rintro ⟨-, here, segment, found, h, -⟩
      exact ⟨_, here, segment, found, h, rfl⟩
    · rintro ⟨-, here, segment, found, h, -⟩
      exact ⟨_, here, segment, found, h, rfl⟩
  · intro e he
    obtain ⟨here, segment, found, h, rfl⟩ := set_eq_error_iff.1 he
    refine ⟨set_eq_self hordered h, here, segment, found, h, rfl, ?_⟩
    exact get_json_eq_error_iff.2 (valueAt_eq_error_iff.2 ⟨here, segment, found, h, rfl⟩)

/-- A text stands in the way, behind an object and in front of members that are not there. -/
theorem set_fails_iff_proxy :
    let vars := ofList [⟨"net", .obj [("proxy", .str "p"), ("zone", .null)], none⟩]
    vars.set "net" ["proxy", "auth", "user"] (.str "u") =
        (vars, some (.variable "net" ["proxy"] (.cannotSet "auth"))) ∧
      vars.get .json "net" ["proxy", "auth", "user"] =
        .error (.variable "net" ["proxy"] (.cannotDescend "auth" (.str "p"))) ∧
      (vars.set "net" ["zone", "id"] (.str "a")).2 = none := by
  intro vars
  have hordered : ∀ root, vars.get? "net" = some root → root.Ordered := by
    intro root hroot
    obtain rfl : _ = root := Option.some.inj hroot
    decide +kernel
  have hsame : (vars.set "net" ["proxy", "auth", "user"] (.str "u")).1 = vars :=
    ((set_fails_iff hordered).2 _ rfl).1
  refine ⟨Prod.ext hsame rfl, rfl, ?_⟩
  by_contra hfails
  obtain ⟨e, he⟩ := (set_fails_iff hordered).1.1 hfails
  cases he

end Variables

end TopologyHooks
