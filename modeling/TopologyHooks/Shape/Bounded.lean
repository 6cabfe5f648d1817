import TopologyHooks.Json.Basic

/-!
# Integers of bounded size

`Bounded low high` holds the integers from `low` to `high`; the four ranges that messages name
are `Signed64`, `Signed32`, `Unsigned32` and `Unsigned16`.
-/

set_option autoImplicit false

namespace TopologyHooks

/-- An integer between two bounds, both included. -/
structure Bounded (low high : Int) where
  val : Int
  bounds : low ≤ val ∧ val ≤ high
  deriving DecidableEq

namespace Bounded

variable {low high : Int}

/-- An integer as a bounded one, if it is within the bounds. -/
def ofInt? (n : Int) : Option (Bounded low high) :=
  if h : low ≤ n ∧ n ≤ high then some ⟨n, h⟩ else none

/-- The bound that lies nearest to an integer outside, or the integer itself. -/
def clamp (h : low ≤ high) (n : Int) : Bounded low high :=
  ⟨max low (min n high), by omega, by omega⟩

/-- Bounded integers with the same value are the same. -/
theorem ext {a b : Bounded low high} (h : a.val = b.val) : a = b := by
  cases a; cases b; cases h; rfl

/-- A bounded integer is made from its own value. -/
theorem ofInt?_val (a : Bounded low high) : ofInt? a.val = some a := by
  rw [ofInt?, dif_pos a.bounds]

end Bounded

/-- The integers of 64 bits. -/
abbrev Signed64 := Bounded (-9223372036854775808) 9223372036854775807

/-- The integers of 32 bits. -/
abbrev Signed32 := Bounded (-2147483648) 2147483647

/-- The natural numbers of 32 bits. -/
abbrev Unsigned32 := Bounded 0 4294967295

/-- The natural numbers of 16 bits. -/
abbrev Unsigned16 := Bounded 0 65535

/-- The natural number of 16 bits that lies nearest to a natural number. -/
def Unsigned16.nearest (n : Nat) : Unsigned16 := Bounded.clamp (by decide) n

end TopologyHooks
