import TopologyHooks.Proofs.Decimal.Rounding
import TopologyHooks.Proofs.Schema.Navigation

/-!
# Bounds of narrowed schemas

* `Schema.Bound` — the keywords `minimum` and `maximum`.
* `Schema.bound_of_advertise` — what is advertised for a bound: the integer that the double nearest
  to it stands for, within 64 bits.
* `Schema.advertised_bound_iff` — so an integer of 64 bits is advertised as it is, anywhere in a
  schema, exactly if it is a double, or the greatest one, which is what larger doubles become.
* `Schema.advertised_bound` — a bound that is given as a double, as in all schemas that are made
  from types, is advertised as it is if it is an integer of 64 bits at all.
-/

set_option autoImplicit false

namespace TopologyHooks

/-- The integer that a number is, if it is one. -/
def Number.whole? : Number → Option Int
  | .int i _ => some i
  | .double d => d.truncate?

namespace Schema

variable {members : Members} {node root : Json} {props : SchemaProps} {n : Number} {i : Signed64}

/-! ## Integers of 64 bits -/

/-- A signed integer is not greater than two to the power of sixty-three, whatever its sign. -/
theorem natAbs_le (i : Signed64) : i.val.natAbs ≤ 2 ^ 63 := by
  have hbounds := i.bounds
  omega

/-- The size of a signed integer is in the range of doubles. -/
theorem log2_natAbs_lt (i : Signed64) : i.val.natAbs.log2 < 1023 := by
  by_cases hzero : i.val.natAbs = 0
  · rw [hzero]
    decide
  · have hlt : i.val.natAbs < 2 ^ 64 := Nat.lt_of_le_of_lt (natAbs_le i) (by decide)
    exact Nat.lt_trans ((Nat.log2_lt hzero).2 hlt) (by decide)

/-- A double that is an integer when it is truncated gives this integer as a bound. -/
theorem integerBound?_double {d : Double} (h : d.truncate? = some i.val) :
    integerBound? (.double d) = some i := by
  have hclamp : Bounded.clamp (by decide) i.val = i := by
    apply Bounded.ext
    have hbounds := i.bounds
    show max _ (min i.val _) = i.val
    omega
  unfold integerBound?
  rw [Number.toDouble, h, Option.map_some, hclamp]

/-- Between the smallest and the greatest integer, only rounding changes a bound; the greatest one
is rounded up, and brought back. -/
theorem integerBound?_int (h : -9223372036854775808 ≤ i.val ∧ i.val < 18446744073709551616) :
    ∃ j, integerBound? (.int i.val h) = some j ∧
      (j = i ↔ Double.Exact i.val.natAbs ∨ i.val = 9223372036854775807) := by
  have hbounds := i.bounds
  have hnearest : Double.nearestWhole i.val.natAbs ≤ 2 ^ 63 :=
    Double.nearestWhole_le (natAbs_le i)
  have hgreatest : i.val = 9223372036854775807 →
      Double.nearestWhole i.val.natAbs = 9223372036854775808 := by
    intro h
    rw [h]
    decide
  have hbound : integerBound? (.int i.val h) = some (Bounded.clamp (by decide)
      (if i.val < 0 then -(Double.nearestWhole i.val.natAbs : Int)
        else Double.nearestWhole i.val.natAbs)) := by
    rw [integerBound?, Number.toDouble, Double.truncate?_ofInt (log2_natAbs_lt i)]
    rfl
  refine ⟨_, hbound, ?_⟩
  rw [← Double.nearestWhole_eq_iff]
  refine Iff.trans ⟨congrArg Bounded.val, Bounded.ext⟩ ?_
  show max _ (min (if i.val < 0 then -(Double.nearestWhole i.val.natAbs : Int)
    else Double.nearestWhole i.val.natAbs) _) = i.val ↔ _
  generalize Double.nearestWhole i.val.natAbs = nearest at *
  split_ifs <;> omega

/-- A whole number gives itself as a bound exactly if it is a double, or the greatest integer; any
other one gives a bound all the same. -/
theorem integerBound?_of_whole (h : n.whole? = some i.val) :
    ∃ j, integerBound? n = some j ∧
      (j = i ↔ Double.Exact i.val.natAbs ∨ i.val = 9223372036854775807) := by
  cases n with
  | int k hk =>
    obtain rfl : k = i.val := Option.some.inj h
    exact integerBound?_int hk
  | double d =>
    exact ⟨i, integerBound?_double h, iff_of_true rfl (.inl (Double.exact_of_truncate? h))⟩

/-! ## Bounds of one node -/

/-- A bound of numbers. -/
inductive Bound
  | minimum
  | maximum

namespace Bound

/-- The keyword of a bound. -/
def keyword : Bound → String
  | minimum => "minimum"
  | maximum => "maximum"

/-- The bound of a variable schema. -/
def under? : Bound → SchemaProps → Option Signed64
  | minimum, schema => schema.minimum
  | maximum, schema => schema.maximum

end Bound

/-- A bound that was checked is an integer, or is dropped. -/
theorem get?_checkBound_self {key : String} (h : Assoc.get? key members = some (.num n)) :
    Assoc.get? key (checkBound key members) =
      (integerBound? n).map fun i => Json.ofInt i.val := by
  unfold checkBound
  rw [h]
  dsimp only
  cases integerBound? n with
  | some i => rw [Assoc.get?_insert, if_pos rfl, Option.map_some]
  | none => rw [Assoc.get?_erase, if_pos rfl, Option.map_none]

/-- Checking the additional properties leaves all other keywords alone. -/
theorem get?_checkAdditional {key : String} (hkey : key ≠ "additionalProperties") :
    Assoc.get? key (checkAdditional members) = Assoc.get? key members := by
  refine Option.ext fun v => ?_
  rw [get?_checkAdditional_eq_some_iff]
  exact and_iff_left fun h => absurd h hkey

/-- A signed integer is written as itself. -/
theorem ofInt_val (i : Signed64) :
    Json.ofInt i.val = .num (.int i.val ⟨i.bounds.1, Int.lt_of_le_of_lt i.bounds.2 (by decide)⟩) := by
  unfold Json.ofInt Number.ofInt
  rw [dif_pos]

/-- What tidying leaves of a bound. -/
theorem get?_tidy_bound {bound : Bound}
    (h : valueOf? bound.keyword (.obj members) = some (.num n)) :
    Assoc.get? bound.keyword (tidy members) =
      (integerBound? n).map fun i => Json.ofInt i.val := by
  have hbefore : Assoc.get? bound.keyword (checkDefault <| checkFormat <| singleType <|
      markUntyped <| dropKeywords <| mergeSingle members) = some (.num n) := by
    rw [get?_checkDefault (by cases bound <;> decide), get?_checkFormat (by cases bound <;> decide),
      get?_singleType (by cases bound <;> decide), get?_markUntyped (by cases bound <;> decide),
      get?_dropKeywords (by cases bound <;> decide), get?_mergeSingle (by cases bound <;> decide)]
    exact h
  unfold tidy
  cases bound with
  | minimum =>
    rw [get?_checkAdditional (by decide), Bound.keyword, get?_checkBound (by decide)]
    exact get?_checkBound_self hbefore
  | maximum =>
    rw [get?_checkAdditional (by decide)]
    refine get?_checkBound_self ?_
    rw [get?_checkBound (by decide)]
    exact hbefore

/-- What is advertised for a bound that is a number. -/
theorem bound_of_advertise (hnode : node.Ordered) (h : advertise node = .ok props) {bound : Bound}
    (hn : valueOf? bound.keyword node = some (.num n)) :
    bound.under? props = integerBound? n := by
  obtain ⟨narrowed, hnarrow, hread⟩ := (advertise_eq_ok_iff hnode).1 h
  cases node with
  | obj members =>
    obtain ⟨left, rfl, -, hother⟩ := exists_of_narrow_obj hnarrow
    obtain ⟨-, -, hmaximum, hminimum⟩ := SchemaProps.reads_optional hread
    -- bounds are not narrowed any further: no step leads through their keywords
    have hkey : ∀ step : Step, bound.keyword ≠ step.keyword := by
      intro step
      cases bound <;> cases step <;> simp [Bound.keyword, Step.keyword]
    have hleft := (hother _ hkey).trans (get?_tidy_bound hn)
    have hslot : (Presence.omitted none Option.isNone).Reads Shape.signed64.nullable
        (Assoc.get? bound.keyword left) (bound.under? props) := by
      cases bound with
      | minimum => exact hminimum
      | maximum => exact hmaximum
    rw [hleft] at hslot
    cases hbound : integerBound? n with
    | none =>
      rw [hbound] at hslot
      exact (Option.some.inj hslot).symm
    | some j =>
      rw [hbound, Option.map_some, ofInt_val] at hslot
      rcases Shape.reads_nullable_iff.1 hslot with ⟨hnull, -⟩ | ⟨-, a, ha, hsome⟩
      · cases hnull
      · obtain ⟨hrange, heq⟩ := Shape.reads_integer_iff.1 ha
        have hval : j.val = a.val := Number.int.inj (Json.num.inj heq)
        rw [← hsome, Bounded.ext hval]
  | _ => cases hn

/-! ## Bounds anywhere -/

/-- Integers of 64 bits as bounds, anywhere in a schema that is accepted: at the node that is
advertised for theirs stands an integer, and it is the same one exactly if that is a double or the
greatest integer. -/
theorem advertised_bound_iff (hroot : root.Ordered) (haccepted : advertise root = .ok props)
    {steps : List Step} (hnode : childAt? root steps = some node) {bound : Bound}
    (hn : valueOf? bound.keyword node = some (.num n)) (hi : n.whole? = some i.val) :
    ∃ p j, underAt? props steps = some p ∧ bound.under? p = some j ∧
      (j = i ↔ Double.Exact i.val.natAbs ∨ i.val = 9223372036854775807) := by
  have hrel := rel_childAt?_of_advertise steps hroot haccepted
  have hordered := ordered_of_childAt? hroot hnode
  rw [hnode] at hrel
  obtain ⟨p, hp, hadvertised⟩ := exists_of_rel_some hrel
  obtain ⟨j, hj, hiff⟩ := integerBound?_of_whole hi
  exact ⟨p, j, hp, (bound_of_advertise hordered hadvertised hn).trans hj, hiff⟩

/-- Integers of 64 bits as bounds that are given as doubles, anywhere in a schema that is accepted: at
the node that is advertised for theirs stands the very same integer. Schemas that are made from
types give all their bounds so. -/
theorem advertised_bound (hroot : root.Ordered) (haccepted : advertise root = .ok props)
    {steps : List Step} (hnode : childAt? root steps = some node) {bound : Bound} {d : Double}
    (hd : valueOf? bound.keyword node = some (.num (.double d)))
    (hi : d.truncate? = some i.val) :
    ∃ p, underAt? props steps = some p ∧ bound.under? p = some i := by
  obtain ⟨p, j, hp, hj, hiff⟩ := advertised_bound_iff (i := i) hroot haccepted hnode hd hi
  have hsame : j = i := hiff.2 (.inl (Double.exact_of_truncate? hi))
  exact ⟨p, hp, hsame ▸ hj⟩

/-- A number with more than 53 binary digits, as a double: the first 53, and a zero behind them. -/
def wide : Double := ⟨false, 1076 * Double.binade + 1, by decide⟩

/-- The schema of numbers that are not below that one. -/
def atLeastWide : Json := .obj [("minimum", .num (.double wide)), ("type", .str "number")]

/-- The lower bound of the numbers in a list is advertised to the last digit. -/
theorem advertised_bound_wide :
    let root : Json := .obj [("items", atLeastWide), ("type", .str "array")]
    ∃ props, advertise root = .ok props ∧
      ∃ p, underAt? props [.items] = some p ∧ p.minimum = some ⟨9007199254740994, by decide⟩ := by
  intro root
  have haccepted : advertise root = .ok { SchemaProps.anything with
    type := some "array"
    items := some { SchemaProps.anything with
      type := some "number"
      minimum := some ⟨9007199254740994, by decide⟩ } } := by rfl
  have hnode : childAt? root [.items] = some atLeastWide := rfl
  have hminimum : valueOf? Bound.minimum.keyword atLeastWide = some (.num (.double wide)) := rfl
  have hwide : wide.truncate? = some 9007199254740994 := by decide
  exact ⟨_, haccepted, advertised_bound (i := ⟨9007199254740994, by decide⟩) (by decide)
    haccepted hnode hminimum hwide⟩

end Schema

end TopologyHooks
