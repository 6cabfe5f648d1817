/-!
# Numbers of a fixed width

`Text.padded` writes a natural number in decimal digits, with zeros in front up to a width.
-/

set_option autoImplicit false

namespace TopologyHooks

namespace Text

/-- A natural number with zeros in front, up to a width. -/
def padded (width n : Nat) : List Char :=
  let digits := Nat.toDigits 10 n
  List.replicate (width - digits.length) '0' ++ digits

/-- A padded number is at least as wide as asked. -/
theorem le_length_padded (width n : Nat) : width ≤ (padded width n).length := by
  simp only [padded, List.length_append, List.length_replicate]
  omega

end Text

end TopologyHooks
