/-!
# Socket addresses

* `SocketAddress` — an address of the internet, of the old or the new kind, with a port.
* `SocketAddress.parse?` — reads `1.2.3.4:80` and `[2001:db8::1%2]:80`. Numbers of an old address
  have no leading zeros, those of a new one at most four digits; one gap of a new address stands
  for at least one zero group, and its last two groups may be written as an old address.
* `SocketAddress.render` — the shortest such text: of several longest gaps the first is left out.
-/

set_option autoImplicit false

namespace TopologyHooks

/-- An address of the internet with a port. -/
inductive SocketAddress
  | v4 (a b c d : UInt8) (port : UInt16)
  /-- Eight groups, and the number of the network that they are meant in. -/
  | v6 (groups : Vector UInt16 8) (scope : UInt32) (port : UInt16)
  deriving DecidableEq

namespace SocketAddress

/-! ## Reading -/

/-- The value of a digit, decimal or hexadecimal. -/
def digit? (radix : Nat) (c : Char) : Option Nat :=
  let value :=
    if '0' ≤ c ∧ c ≤ '9' then some (c.toNat - 48)
    else if 'a' ≤ c ∧ c ≤ 'f' then some (c.toNat - 87)
    else if 'A' ≤ c ∧ c ≤ 'F' then some (c.toNat - 55)
    else none
  value.filter (· < radix)

/-- The digits at the front of a text. -/
def digits (radix : Nat) : List Char → List Nat × List Char
  | [] => ([], [])
  | c :: cs =>
    match digit? radix c with
    | none => ([], c :: cs)
    | some d =>
      let (ds, rest) := digits radix cs
      (d :: ds, rest)

/-- A number below a limit, with some number of digits at most. -/
def number? (radix limit maxDigits : Nat) (cs : List Char) : Option (Nat × List Char) :=
  let (ds, rest) := digits radix cs
  let value := ds.foldl (fun n d => n * radix + d) 0
  if ds.isEmpty || maxDigits < ds.length || limit ≤ value then none else some (value, rest)

/-- A number without leading zeros that fits into a byte. -/
def octet? (cs : List Char) : Option (UInt8 × List Char) :=
  match number? 10 256 3 cs with
  | some (n, rest) =>
    if cs.head? == some '0' && rest.length + 1 < cs.length then none else some (n.toUInt8, rest)
  | none => none

/-- A given character. -/
def mark? (c : Char) : List Char → Option (List Char)
  | d :: rest => if d = c then some rest else none
  | [] => none

/-- The four numbers of an old address. -/
def octets? (cs : List Char) : Option ((UInt8 × UInt8 × UInt8 × UInt8) × List Char) := do
  let (a, cs) ← octet? cs
  let (b, cs) ← octet? (← mark? '.' cs)
  let (c, cs) ← octet? (← mark? '.' cs)
  let (d, cs) ← octet? (← mark? '.' cs)
  return ((a, b, c, d), cs)

/-- A colon and a port. -/
def port? (cs : List Char) : Option (UInt16 × List Char) := do
  let cs ← mark? ':' cs
  let (n, rest) ← number? 10 65536 cs.length cs
  return (n.toUInt16, rest)

/-- A text after a colon, but for the first of several. -/
def after? (first : Bool) (cs : List Char) : Option (List Char) :=
  if first then some cs else mark? ':' cs

/-- Two groups written as an old address. -/
def pair? (cs : List Char) : Option (List UInt16 × List Char) :=
  (octets? cs).map fun ((a, b, c, d), rest) =>
    ([a.toUInt16 * 256 + b.toUInt16, c.toUInt16 * 256 + d.toUInt16], rest)

/-- At most `limit` groups; the flag tells whether an old address ends them. -/
def groups (limit : Nat) (first : Bool) (cs : List Char) : List UInt16 × Bool × List Char :=
  match limit with
  | 0 => ([], false, cs)
  | left + 1 =>
    match if left = 0 then none else (after? first cs).bind pair? with
    | some (pair, rest) => (pair, true, rest)
    | none =>
      match (after? first cs).bind (number? 16 65536 4) with
      | none => ([], false, cs)
      | some (g, rest) =>
        let (gs, old, rest) := groups left false rest
        (g.toUInt16 :: gs, old, rest)

/-- Eight groups, of which a gap stands for zeros. -/
def address? (cs : List Char) : Option (Vector UInt16 8 × List Char) :=
  let (front, old, rest) := groups 8 true cs
  if h : front.length = 8 then some (⟨front.toArray, by simpa using h⟩, rest)
  else if old then none
  else
    match rest with
    | ':' :: ':' :: rest =>
      let (back, _, rest) := groups (7 - front.length) true rest
      let all := front ++ List.replicate (8 - front.length - back.length) 0 ++ back
      if h : all.length = 8 then some (⟨all.toArray, by simpa using h⟩, rest) else none
    | _ => none

/-- The number of a network after a percent sign; a missing one is zero. -/
def scope (cs : List Char) : UInt32 × List Char :=
  match cs with
  | '%' :: more =>
    match number? 10 4294967296 more.length more with
    | some (n, rest) => (n.toUInt32, rest)
    | none => (0, cs)
  | _ => (0, cs)

/-- An old address with its port. -/
def parseV4? (cs : List Char) : Option SocketAddress := do
  let ((a, b, c, d), cs) ← octets? cs
  let (port, rest) ← port? cs
  if rest.isEmpty then return .v4 a b c d port else none

/-- A new address with its port. -/
def parseV6? (cs : List Char) : Option SocketAddress := do
  let (groups, cs) ← address? (← mark? '[' cs)
  let (scope, cs) := scope cs
  let (port, rest) ← port? (← mark? ']' cs)
  if rest.isEmpty then return .v6 groups scope port else none

/-- The address that a text stands for. -/
def parse? (s : String) : Option SocketAddress := (parseV4? s.toList).or (parseV6? s.toList)

/-! ## Writing -/

/-- An old address. -/
def octetsText (a b c d : Nat) : String :=
  ".".intercalate [toString a, toString b, toString c, toString d]

/-- Groups in hexadecimal, between colons. -/
def groupsText (gs : List UInt16) : String :=
  ":".intercalate (gs.map fun g => String.ofList (Nat.toDigits 16 g.toNat))

/-- The number of zeros at the front of groups. -/
def zeros (gs : List UInt16) : Nat := (gs.takeWhile (· == 0)).length

/-- The start and length of the first longest run of zeros. -/
def gap (index : Nat) : List UInt16 → Nat × Nat
  | [] => (index, 0)
  | g :: gs =>
    let here := zeros (g :: gs)
    let (start, length) := gap (index + 1) gs
    if here = 0 ∨ here < length then (start, length) else (index, here)

/-- A new address without brackets. -/
def addressText (gs : List UInt16) : String :=
  match gs with
  | [0, 0, 0, 0, 0, 65535, x, y] =>
    "::ffff:" ++ octetsText (x.toNat / 256) (x.toNat % 256) (y.toNat / 256) (y.toNat % 256)
  | _ =>
    let (start, length) := gap 0 gs
    if length ≤ 1 then groupsText gs
    else groupsText (gs.take start) ++ "::" ++ groupsText (gs.drop (start + length))

/-- The text of an address. -/
def render : SocketAddress → String
  | v4 a b c d port =>
    octetsText a.toNat b.toNat c.toNat d.toNat ++ ":" ++ toString port.toNat
  | v6 groups scope port =>
    let scopeText := if scope = 0 then "" else "%" ++ toString scope.toNat
    "[" ++ addressText groups.toList ++ scopeText ++ "]:" ++ toString port.toNat

end SocketAddress

end TopologyHooks
