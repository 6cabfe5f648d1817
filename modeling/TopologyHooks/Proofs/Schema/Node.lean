import TopologyHooks.Proofs.Pointwise
import TopologyHooks.Schema.Narrow

/-!
# What narrowing does to one node

* `Schema.wrapped` — the members of the single schema of a conjunction. After
  `Schema.mergeSingle`, a keyword has the value of the node itself or else that of the wrapped
  schema (`Schema.get?_mergeSingle`).
* Each step of `Schema.tidy` leaves all keywords but its own alone, so that a keyword that no step
  is about is only merged (`Schema.get?_tidy_eq_some_iff`).
* `Schema.under` and `Schema.eachMember` fail only where a change of a value fails.
-/

set_option autoImplicit false

namespace TopologyHooks

namespace Schema

variable {key other : String} {members changed : Members} {v : Json}

/-! ## Conjunctions -/

/-- The members of the single schema of a conjunction; none if there is no such schema. -/
def wrapped (members : Members) : Members :=
  match Assoc.get? "allOf" members with
  | some (.arr [.obj extra]) => extra
  | _ => []

/-- A conjunction of a single schema wraps the members of this one. -/
theorem wrapped_eq {extra : Members} (h : Assoc.get? "allOf" members = some (.arr [.obj extra])) :
    wrapped members = extra := by
  unfold wrapped
  rw [h]

/-- What is no conjunction of a single schema wraps nothing. -/
theorem wrapped_eq_nil (h : ∀ extra, Assoc.get? "allOf" members ≠ some (.arr [.obj extra])) :
    wrapped members = [] := by
  unfold wrapped
  split
  · rename_i extra hall
    exact absurd hall (h extra)
  · rfl

/-- A member after missing ones were added is the one that was there, or else the added one. -/
theorem get?_addMissing (key : String) (extra : Members) : ∀ members : Members,
    Assoc.get? key (addMissing members extra) =
      (Assoc.get? key members).or (Assoc.get? key extra) := by
  induction extra with
  | nil => exact fun members => Option.or_none.symm
  | cons e rest ih =>
    intro members
    show Assoc.get? key (addMissing (if has e.1 members then members
      else Assoc.insert e.1 e.2 members) rest) = _
    rw [ih, Assoc.get?]
    by_cases hkey : e.1 = key
    · subst hkey
      unfold has
      cases hold : Assoc.get? e.1 members with
      | none => simp [Assoc.get?_insert]
      | some w => simp [hold]
    · rw [if_neg hkey]
      split
      · rfl
      · rw [Assoc.get?_insert, if_neg hkey]

/-- A keyword other than the conjunction is that of the node itself, or else that of the schema that
it wraps. -/
theorem get?_mergeSingle (hkey : key ≠ "allOf") (members : Members) :
    Assoc.get? key (mergeSingle members) =
      (Assoc.get? key members).or (Assoc.get? key (wrapped members)) := by
  have herase : Assoc.get? key (Assoc.erase "allOf" members) = Assoc.get? key members := by
    rw [Assoc.get?_erase, if_neg hkey.symm]
  unfold mergeSingle
  split
  · rename_i extra hall
    rw [get?_addMissing, herase, wrapped_eq hall]
  · rename_i item hitem hall
    have hnone : wrapped members = [] := by
      apply wrapped_eq_nil
      intro extra h
      rw [hall] at h
      cases h
      exact hitem extra rfl
    rw [herase, hnone, Assoc.get?_nil, Option.or_none]
  · rename_i hobj _
    rw [wrapped_eq_nil hobj, Assoc.get?_nil, Option.or_none]

/-! ## Keywords -/

/-- Dropped keywords are gone, and all others stay. -/
theorem get?_eraseAll (key : String) (dropped : List String) : ∀ members : Members,
    Assoc.get? key (dropped.foldl (fun acc k => Assoc.erase k acc) members) =
      if key ∈ dropped then none else Assoc.get? key members := by
  induction dropped with
  | nil => exact fun members => (if_neg List.not_mem_nil).symm
  | cons k rest ih =>
    intro members
    rw [List.foldl_cons, ih, Assoc.get?_erase]
    by_cases hkey : k = key
    · simp [hkey]
    · simp [hkey, Ne.symm hkey]

/-- Dropping keywords leaves all others alone. -/
theorem get?_dropKeywords (hkey : key ∉ droppedKeywords) (members : Members) :
    Assoc.get? key (dropKeywords members) = Assoc.get? key members := by
  unfold dropKeywords
  rw [get?_eraseAll, if_neg hkey]

/-- Marking a schema of anything leaves all keywords but the mark alone. -/
theorem get?_markUntyped (hkey : key ≠ preserveKeyword) (members : Members) :
    Assoc.get? key (markUntyped members) = Assoc.get? key members := by
  unfold markUntyped
  split
  · rfl
  · rw [Assoc.get?_insert, if_neg hkey.symm]

/-- Choosing a single type leaves all keywords but the type alone. -/
theorem get?_singleType (hkey : key ≠ "type") (members : Members) :
    Assoc.get? key (singleType members) = Assoc.get? key members := by
  unfold singleType
  split
  · rw [Assoc.get?_insert, if_neg hkey.symm]
  · rfl

/-- Checking the format leaves all other keywords alone. -/
theorem get?_checkFormat (hkey : key ≠ "format") (members : Members) :
    Assoc.get? key (checkFormat members) = Assoc.get? key members := by
  unfold checkFormat
  split
  · split
    · rfl
    · rw [Assoc.get?_erase, if_neg hkey.symm]
  · rfl

/-- Checking the default leaves all other keywords alone. -/
theorem get?_checkDefault (hkey : key ≠ "default") (members : Members) :
    Assoc.get? key (checkDefault members) = Assoc.get? key members := by
  unfold checkDefault
  split
  · rw [Assoc.get?_erase, if_neg hkey.symm]
  · rfl

/-- Checking a bound leaves all other keywords alone. -/
theorem get?_checkBound {bound : String} (hkey : key ≠ bound) (members : Members) :
    Assoc.get? key (checkBound bound members) = Assoc.get? key members := by
  unfold checkBound
  split
  · split
    · rw [Assoc.get?_insert, if_neg hkey.symm]
    · rw [Assoc.get?_erase, if_neg hkey.symm]
  · rfl

/-- Checking the additional properties drops them if they are a truth value, and leaves all else
alone. -/
theorem get?_checkAdditional_eq_some_iff :
    Assoc.get? key (checkAdditional members) = some v ↔ Assoc.get? key members = some v ∧
      (key = "additionalProperties" → ∀ b, v ≠ .bool b) := by
  unfold checkAdditional
  split
  · rename_i b hb
    rw [Assoc.get?_erase]
    by_cases hkey : "additionalProperties" = key
    · subst hkey
      rw [if_pos rfl, hb]
      constructor
      · exact fun h => absurd h (Option.some_ne_none v).symm
      · rintro ⟨h, hbool⟩
        exact absurd (Option.some.inj h).symm (hbool rfl b)
    · rw [if_neg hkey]
      exact (and_iff_left fun h => absurd h.symm hkey).symm
  · rename_i hbool
    refine (and_iff_left_of_imp ?_).symm
    rintro h rfl b rfl
    exact hbool b h

/-- The keywords that a step of `tidy` is about, except that of additional properties. -/
def tidied : List String :=
  "allOf" :: preserveKeyword :: "type" :: "format" :: "default" :: "minimum" :: "maximum" ::
    droppedKeywords

/-- A keyword that no step is about has the value of the node or else that of the wrapped schema;
of additional properties, a plain yes or no is dropped. -/
theorem get?_tidy_eq_some_iff (hkey : key ∉ tidied) :
    Assoc.get? key (tidy members) = some v ↔
      (Assoc.get? key members).or (Assoc.get? key (wrapped members)) = some v ∧
        (key = "additionalProperties" → ∀ b, v ≠ .bool b) := by
  simp only [tidied, List.mem_cons, not_or] at hkey
  obtain ⟨hall, hpreserve, htype, hformat, hdefault, hminimum, hmaximum, hdropped⟩ := hkey
  unfold tidy
  rw [get?_checkAdditional_eq_some_iff, get?_checkBound hmaximum, get?_checkBound hminimum,
    get?_checkDefault hdefault, get?_checkFormat hformat, get?_singleType htype,
    get?_markUntyped hpreserve, get?_dropKeywords hdropped, get?_mergeSingle hall]

/-! ## Nodes inside nodes -/

variable {change : Json → Except SchemaFault Json}

/-- A change under a key succeeds where there is no such key, with nothing changed, or where the
value can be changed. -/
theorem under_eq_ok_iff : under key change members = .ok changed ↔
    Assoc.get? key members = none ∧ members = changed ∨
      ∃ v w, Assoc.get? key members = some v ∧ change v = .ok w ∧
        Assoc.insert key w members = changed := by
  unfold under
  cases hv : Assoc.get? key members with
  | none => simp
  | some v => cases hw : change v <;> simp [hw]

/-- A change under a key leaves what is under other keys alone. -/
theorem get?_of_under (h : under key change members = .ok changed) (hne : key ≠ other) :
    Assoc.get? other changed = Assoc.get? other members := by
  rcases under_eq_ok_iff.1 h with ⟨-, rfl⟩ | ⟨v, w, -, -, rfl⟩
  · rfl
  · rw [Assoc.get?_insert, if_neg hne]

/-- A change under a key succeeds exactly if it does so on the value, should there be one. -/
theorem exists_under_iff : (∃ changed, under key change members = .ok changed) ↔
    ∀ v, Assoc.get? key members = some v → ∃ w, change v = .ok w := by
  unfold under
  cases hv : Assoc.get? key members with
  | none => simp
  | some v => cases hw : change v <;> simp [hw]

/-- Changing each member succeeds exactly if it does so member by member, under the same keys. -/
theorem eachMember_eq_ok_iff : ∀ {properties narrowed : Members},
    eachMember change properties = .ok narrowed ↔
      List.Forall₂ (fun e f => e.1 = f.1 ∧ change e.2 = .ok f.2) properties narrowed
  | [], narrowed => by cases narrowed <;> simp [eachMember]
  | (k, v) :: rest, narrowed => by
    rw [eachMember, List.forall₂_cons_left_iff]
    simp only [← eachMember_eq_ok_iff]
    cases hv : change v with
    | error e => simp
    | ok w => cases eachMember change rest <;> simp [eq_comm]

/-- Changing each member succeeds exactly if each member can be changed. -/
theorem exists_eachMember_iff {properties : Members} :
    (∃ narrowed, eachMember change properties = .ok narrowed) ↔
      ∀ e ∈ properties, ∃ w, change e.2 = .ok w := by
  constructor
  · rintro ⟨narrowed, h⟩ e he
    obtain ⟨f, -, -, hf⟩ := exists_mem_of_forall₂ (eachMember_eq_ok_iff.1 h) e he
    exact ⟨f.2, hf⟩
  · intro h
    have hall : ∀ e ∈ properties, ∃ f : String × Json, e.1 = f.1 ∧ change e.2 = .ok f.2 := by
      intro e he
      obtain ⟨w, hw⟩ := h e he
      exact ⟨(e.1, w), rfl, hw⟩
    obtain ⟨narrowed, hnarrowed⟩ := exists_forall₂ hall
    exact ⟨narrowed, eachMember_eq_ok_iff.2 hnarrowed⟩

/-- Changing each property succeeds exactly if each property can be changed, should these be in an
object. -/
theorem exists_eachProperty_iff : (∃ w, eachProperty change v = .ok w) ↔
    ∀ properties, v = .obj properties → ∀ e ∈ properties, ∃ w, change e.2 = .ok w := by
  cases v with
  | obj properties =>
    simp [eachProperty, map_eq_ok_iff, exists_eachMember_iff]
  | _ => simp [eachProperty]

/-- What narrowing does to an object. -/
theorem narrowWithin_obj_eq_ok_iff {fuel : Nat} {narrowed : Json} :
    narrowWithin (fuel + 1) (.obj members) = .ok narrowed ↔ refusal? members = none ∧
      ∃ a b c, under "additionalProperties" (narrowWithin fuel) (tidy members) = .ok a ∧
        under "properties" (eachProperty (narrowWithin fuel)) a = .ok b ∧
        under "items" (narrowWithin fuel) b = .ok c ∧ Json.obj c = narrowed := by
  rw [narrowWithin]
  cases refusal? members with
  | some fault => simp
  | none => simp [bind_eq_ok_iff, pure, Except.pure]

end Schema

end TopologyHooks
