import TopologyHooks.Decimal.Double
import TopologyHooks.Dictionary

/-!
# JSON values

* `Number` — an integer from `-2^63` to `2^64 - 1`, or a finite double. The two never mix: the
  double `1.0` is not the integer `1`.
* `Json` — JSON values. The members of an object are a list; values that were read or built here
  have them in strictly increasing key order.
* `Json.same` — equality of values, for which the two zeros of a double are one number.
* `Json.depth` — how deep arrays and objects are nested.
-/

set_option autoImplicit false

namespace TopologyHooks

/-- A JSON number. -/
inductive Number
  | int (n : Int) (inRange : -9223372036854775808 ≤ n ∧ n < 18446744073709551616)
  | double (d : Double)
  deriving DecidableEq

/-- A JSON value. -/
inductive Json
  | null
  | bool (b : Bool)
  | num (n : Number)
  | str (s : String)
  | arr (items : List Json)
  | obj (members : List (String × Json))

namespace Number

/-- An integer as a number; one outside the integer range becomes the nearest double. -/
def ofInt (n : Int) : Number :=
  if h : -9223372036854775808 ≤ n ∧ n < 18446744073709551616 then .int n h
  else .double (Double.ofInt n)

/-- Whether two numbers have the same sort and the same value. -/
def same : Number → Number → Bool
  | .int m _, .int n _ => decide (m = n)
  | .double a, .double b => a.sameValue b
  | _, _ => false

/-- The double nearest to a number. -/
def toDouble : Number → Double
  | .int n _ => Double.ofInt n
  | .double d => d

end Number

namespace Json

instance : Inhabited Json := ⟨.null⟩

/-! ## Equality -/

mutual

/-- Decides equality of values. -/
def decEq : (a b : Json) → Decidable (a = b)
  | .null, .null => isTrue rfl
  | .bool a, .bool b =>
    if h : a = b then isTrue (congrArg _ h) else isFalse fun e => h (Json.bool.inj e)
  | .num a, .num b =>
    if h : a = b then isTrue (congrArg _ h) else isFalse fun e => h (Json.num.inj e)
  | .str a, .str b =>
    if h : a = b then isTrue (congrArg _ h) else isFalse fun e => h (Json.str.inj e)
  | .arr a, .arr b =>
    match decEqItems a b with
    | isTrue h => isTrue (congrArg _ h)
    | isFalse h => isFalse fun e => h (Json.arr.inj e)
  | .obj a, .obj b =>
    match decEqMembers a b with
    | isTrue h => isTrue (congrArg _ h)
    | isFalse h => isFalse fun e => h (Json.obj.inj e)
  | .null, .bool _ | .null, .num _ | .null, .str _ | .null, .arr _ | .null, .obj _ =>
    isFalse (nomatch ·)
  | .bool _, .null | .bool _, .num _ | .bool _, .str _ | .bool _, .arr _ | .bool _, .obj _ =>
    isFalse (nomatch ·)
  | .num _, .null | .num _, .bool _ | .num _, .str _ | .num _, .arr _ | .num _, .obj _ =>
    isFalse (nomatch ·)
  | .str _, .null | .str _, .bool _ | .str _, .num _ | .str _, .arr _ | .str _, .obj _ =>
    isFalse (nomatch ·)
  | .arr _, .null | .arr _, .bool _ | .arr _, .num _ | .arr _, .str _ | .arr _, .obj _ =>
    isFalse (nomatch ·)
  | .obj _, .null | .obj _, .bool _ | .obj _, .num _ | .obj _, .str _ | .obj _, .arr _ =>
    isFalse (nomatch ·)

/-- Decides equality of the items of two arrays. -/
def decEqItems : (a b : List Json) → Decidable (a = b)
  | [], [] => isTrue rfl
  | [], _ :: _ => isFalse (nomatch ·)
  | _ :: _, [] => isFalse (nomatch ·)
  | x :: xs, y :: ys =>
    match decEq x y, decEqItems xs ys with
    | isTrue h, isTrue hs => isTrue (by rw [h, hs])
    | isFalse h, _ => isFalse fun e => h (List.cons.inj e).1
    | _, isFalse hs => isFalse fun e => hs (List.cons.inj e).2

/-- Decides equality of the members of two objects. -/
def decEqMembers : (a b : List (String × Json)) → Decidable (a = b)
  | [], [] => isTrue rfl
  | [], _ :: _ => isFalse (nomatch ·)
  | _ :: _, [] => isFalse (nomatch ·)
  | (k, x) :: xs, (l, y) :: ys =>
    if hk : k = l then
      match decEq x y, decEqMembers xs ys with
      | isTrue h, isTrue hs => isTrue (by rw [hk, h, hs])
      | isFalse h, _ => isFalse fun e => h (Prod.mk.inj (List.cons.inj e).1).2
      | _, isFalse hs => isFalse fun e => hs (List.cons.inj e).2
    else isFalse fun e => hk (Prod.mk.inj (List.cons.inj e).1).1

end

instance : DecidableEq Json := decEq

mutual

/-- Whether two values are equal as JSON. -/
def same : Json → Json → Bool
  | .null, .null => true
  | .bool a, .bool b => a == b
  | .num a, .num b => a.same b
  | .str a, .str b => a == b
  | .arr a, .arr b => sameItems a b
  | .obj a, .obj b => sameMembers a b
  | _, _ => false

/-- Whether two arrays have equal items. -/
def sameItems : List Json → List Json → Bool
  | [], [] => true
  | x :: xs, y :: ys => same x y && sameItems xs ys
  | _, _ => false

/-- Whether two objects have equal members. -/
def sameMembers : List (String × Json) → List (String × Json) → Bool
  | [], [] => true
  | (k, x) :: xs, (l, y) :: ys => k == l && same x y && sameMembers xs ys
  | _, _ => false

end

/-! ## Depth -/

mutual

/-- The number of arrays and objects around the innermost value. -/
def depth : Json → Nat
  | .arr items => depthItems items + 1
  | .obj members => depthMembers members + 1
  | _ => 0

/-- The greatest depth among items. -/
def depthItems : List Json → Nat
  | [] => 0
  | x :: xs => max (depth x) (depthItems xs)

/-- The greatest depth among members. -/
def depthMembers : List (String × Json) → Nat
  | [] => 0
  | (_, x) :: xs => max (depth x) (depthMembers xs)

end

/-- The depth of a list is bounded by a number exactly if that of each item is. -/
theorem depthItems_le_iff {items : List Json} {n : Nat} :
    depthItems items ≤ n ↔ ∀ x ∈ items, depth x ≤ n := by
  induction items with
  | nil => simp [depthItems]
  | cons x xs ih => rw [depthItems, Nat.max_le, ih, List.forall_mem_cons]

/-- The depth of members is bounded by a number exactly if that of each value is. -/
theorem depthMembers_le_iff {members : List (String × Json)} {n : Nat} :
    depthMembers members ≤ n ↔ ∀ e ∈ members, depth e.2 ≤ n := by
  induction members with
  | nil => simp [depthMembers]
  | cons e rest ih => rw [depthMembers, Nat.max_le, ih, List.forall_mem_cons]

/-! ## Building and looking -/

/-- An integer. -/
def ofInt (n : Int) : Json := .num (Number.ofInt n)

/-- A natural number. -/
def ofNat (n : Nat) : Json := ofInt n

/-- An object with the given members, sorted; of a repeated key the last member wins. -/
def object (members : List (String × Json)) : Json := .obj (Assoc.insertAll [] members)

/-- The member of an object with a key; other values have none. -/
def member? (key : String) : Json → Option Json
  | .obj members => Assoc.get? key members
  | _ => none

/-- The text of a string. -/
def string? : Json → Option String
  | .str s => some s
  | _ => none

/-- Whether a value is null. -/
def isNull : Json → Bool
  | .null => true
  | _ => false

/-- The word for the kind of a value. -/
def kindName : Json → String
  | .null => "null"
  | .bool _ => "boolean"
  | .num _ => "number"
  | .str _ => "string"
  | .arr _ => "array"
  | .obj _ => "object"

end Json

end TopologyHooks
