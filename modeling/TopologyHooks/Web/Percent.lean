/-!
# Percent-encoded text

`Percent.decode?` is the text that a segment of a path stands for: a percent sign and two
hexadecimal digits stand for a byte, and the bytes must be the UTF-8 form of a text. A percent
sign without two such digits stands for itself.
-/

set_option autoImplicit false

namespace TopologyHooks

namespace Percent

/-- The value of a hexadecimal digit. -/
def hexValue? (byte : UInt8) : Option UInt8 :=
  if 48 ≤ byte ∧ byte ≤ 57 then some (byte - 48)
  else if 65 ≤ byte ∧ byte ≤ 70 then some (byte - 55)
  else if 97 ≤ byte ∧ byte ≤ 102 then some (byte - 87)
  else none

/-- The bytes that bytes of a segment stand for. -/
def decodeBytes : List UInt8 → List UInt8
  | 37 :: a :: b :: rest =>
    match hexValue? a, hexValue? b with
    | some high, some low => (high * 16 + low) :: decodeBytes rest
    | _, _ => 37 :: decodeBytes (a :: b :: rest)
  | byte :: rest => byte :: decodeBytes rest
  | [] => []

/-- The text that a segment stands for. -/
def decode? (segment : String) : Option String :=
  String.fromUTF8? ⟨(decodeBytes segment.toUTF8.data.toList).toArray⟩

end Percent

end TopologyHooks
