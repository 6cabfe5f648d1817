/-!
# Base64

* `Base64.encode` — bytes as text of the standard alphabet, padded to groups of four.
* `Base64.decode` — the bytes of such a text, or what is wrong with it. Only the padded text with
  zero bits after the last byte is accepted, so every text stands for at most one list of bytes.
-/

set_option autoImplicit false

namespace TopologyHooks

namespace Base64

/-- The symbol of six bits. -/
def symbol (n : Nat) : Char :=
  if n < 26 then Char.ofNat (65 + n)
  else if n < 52 then Char.ofNat (71 + n)
  else if n < 62 then Char.ofNat (n - 4)
  else if n = 62 then '+' else '/'

/-- The text of bytes. -/
def encode : List UInt8 → List Char
  | [] => []
  | [a] =>
    let a := a.toNat
    [symbol (a / 4), symbol (a % 4 * 16), '=', '=']
  | [a, b] =>
    let a := a.toNat
    let b := b.toNat
    [symbol (a / 4), symbol (a % 4 * 16 + b / 16), symbol (b % 16 * 4), '=']
  | a :: b :: c :: rest =>
    let x := a.toNat
    let y := b.toNat
    let z := c.toNat
    symbol (x / 4) :: symbol (x % 4 * 16 + y / 16) :: symbol (y % 16 * 4 + z / 64) ::
      symbol (z % 64) :: encode rest

/-- What is wrong with a text. -/
inductive Malformed
  /-- A byte that is no symbol, and where it stands. -/
  | symbol (byte offset : Nat)
  /-- A length that no list of bytes has. -/
  | length (n : Nat)
  /-- A last symbol with bits that belong to no byte. -/
  | lastSymbol (byte offset : Nat)
  /-- Too little or too much padding. -/
  | padding
  deriving DecidableEq

/-- The text of a malformation. -/
def Malformed.message : Malformed → String
  | .symbol byte offset => s!"Invalid symbol {byte}, offset {offset}."
  | .length n => s!"Invalid input length: {n}"
  | .lastSymbol byte offset => s!"Invalid last symbol {byte}, offset {offset}."
  | .padding => "Invalid padding"

/-- The six bits of a symbol. -/
def value? (byte : Nat) : Option Nat :=
  if 65 ≤ byte ∧ byte ≤ 90 then some (byte - 65)
  else if 97 ≤ byte ∧ byte ≤ 122 then some (byte - 71)
  else if 48 ≤ byte ∧ byte ≤ 57 then some (byte + 4)
  else if byte = 43 then some 62
  else if byte = 47 then some 63
  else none

/-- The byte of the padding. -/
def pad : Nat := 61

/-- The six bits of a symbol that stands at an offset. -/
def sixBits (offset : Nat) (byte : UInt8) : Except Malformed Nat :=
  match value? byte.toNat with
  | some v => .ok v
  | none => .error (.symbol byte.toNat offset)

/-- Four symbols as three bytes. -/
def quad (offset : Nat) (a b c d : UInt8) : Except Malformed (List UInt8) := do
  let w ← sixBits offset a
  let x ← sixBits (offset + 1) b
  let y ← sixBits (offset + 2) c
  let z ← sixBits (offset + 3) d
  return [UInt8.ofNat (w * 4 + x / 16), UInt8.ofNat (x % 16 * 16 + y / 4),
    UInt8.ofNat (y % 4 * 64 + z)]

/-- The symbols of the last group and the number of paddings after them. `index` counts the bytes
of the group already seen; padding may not stand among the first two, nor before a symbol. -/
def lastGroup (offset index : Nat) : List UInt8 → Except Malformed (List Nat × Nat)
  | [] => .ok ([], 0)
  | b :: rest =>
    if b.toNat = pad then
      if index < 2 then .error (.symbol pad (offset + index))
      else
        match rest.find? (·.toNat ≠ pad) with
        | some _ => .error (.symbol pad (offset + index))
        | none => .ok ([], rest.length + 1)
    else do
      let v ← sixBits (offset + index) b
      let (vs, paddings) ← lastGroup offset (index + 1) rest
      return (v :: vs, paddings)

/-- The bytes of the last group, which may end in padding. -/
def ending (offset : Nat) (group : List UInt8) : Except Malformed (List UInt8) := do
  let (vs, paddings) ← lastGroup offset 0 group
  if vs.length < 2 then
    if group = [] ∧ offset = 0 then return [] else throw (.length (offset + vs.length))
  if (vs.length + paddings) % 4 ≠ 0 then throw .padding
  let spare (index : Nat) : Malformed :=
    .lastSymbol ((group[index]?.map UInt8.toNat).getD 0) (offset + index)
  match vs with
  | [w, x] =>
    if x % 16 ≠ 0 then throw (spare 1)
    return [UInt8.ofNat (w * 4 + x / 16)]
  | [w, x, y] =>
    if y % 4 ≠ 0 then throw (spare 2)
    return [UInt8.ofNat (w * 4 + x / 16), UInt8.ofNat (x % 16 * 16 + y / 4)]
  | w :: x :: y :: z :: _ =>
    return [UInt8.ofNat (w * 4 + x / 16), UInt8.ofNat (x % 16 * 16 + y / 4),
      UInt8.ofNat (y % 4 * 64 + z)]
  | _ => return []

/-- The bytes of the groups from an offset on. -/
def groups (offset : Nat) : List UInt8 → Except Malformed (List UInt8)
  | a :: b :: c :: d :: e :: rest => do
    let bytes ← quad offset a b c d
    let more ← groups (offset + 4) (e :: rest)
    return bytes ++ more
  | group => ending offset group

/-- The bytes of a text. A byte after the last group that is no symbol is reported first. -/
def decodeBytes (text : List UInt8) : Except Malformed (List UInt8) :=
  match text.getLast? with
  | some last =>
    if text.length % 4 = 1 ∧ last.toNat ≠ pad ∧ value? last.toNat = none then
      .error (.symbol last.toNat (text.length - 1))
    else groups 0 text
  | none => .ok []

/-- The bytes that a text stands for. -/
def decode (s : String) : Except Malformed (List UInt8) := decodeBytes s.toUTF8.data.toList

end Base64

end TopologyHooks
