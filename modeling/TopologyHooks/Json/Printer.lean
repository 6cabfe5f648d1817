import TopologyHooks.Json.Basic
import TopologyHooks.Decimal.Shortest

/-!
# Compact JSON text

`Json.put` writes a value without blanks in front of a rest of text, members in the order of the
value; `Json.render` is the text alone. In strings the quote, the backslash and the control
characters are escaped and nothing else.
-/

set_option autoImplicit false

namespace TopologyHooks

namespace Json

/-- The hexadecimal digit of a number below sixteen. -/
def hexDigit (n : Nat) : Char := Nat.digitChar n

/-- How a character is written in a JSON string. -/
def escapeChar (c : Char) : List Char :=
  if c = '"' then ['\\', '"']
  else if c = '\\' then ['\\', '\\']
  else if c = '\x08' then ['\\', 'b']
  else if c = '\t' then ['\\', 't']
  else if c = '\n' then ['\\', 'n']
  else if c = '\x0c' then ['\\', 'f']
  else if c = '\r' then ['\\', 'r']
  else if c.toNat < 0x20 then
    ['\\', 'u', '0', '0', hexDigit (c.toNat / 16), hexDigit (c.toNat % 16)]
  else [c]

/-- The characters of a string, escaped, in front of a rest. -/
def putChars : List Char → List Char → List Char
  | [], rest => rest
  | c :: cs, rest => escapeChar c ++ putChars cs rest

/-- A JSON string in front of a rest. -/
def putString (s : String) (rest : List Char) : List Char :=
  '"' :: putChars s.toList ('"' :: rest)

/-- The text of an integer. -/
def intText (n : Int) : List Char :=
  if n < 0 then '-' :: Nat.toDigits 10 n.natAbs else Nat.toDigits 10 n.natAbs

/-- The text of a number. -/
def numberText : Number → List Char
  | .int n _ => intText n
  | .double d => d.render

mutual

/-- The text of a value in front of a rest. -/
def put : Json → List Char → List Char
  | .null, rest => 'n' :: 'u' :: 'l' :: 'l' :: rest
  | .bool true, rest => 't' :: 'r' :: 'u' :: 'e' :: rest
  | .bool false, rest => 'f' :: 'a' :: 'l' :: 's' :: 'e' :: rest
  | .num n, rest => numberText n ++ rest
  | .str s, rest => putString s rest
  | .arr [], rest => '[' :: ']' :: rest
  | .arr (x :: xs), rest => '[' :: put x (putItems xs rest)
  | .obj [], rest => '{' :: '}' :: rest
  | .obj ((k, x) :: xs), rest => '{' :: putString k (':' :: put x (putMembers xs rest))

/-- The items after the first one, and the closing bracket, in front of a rest. -/
def putItems : List Json → List Char → List Char
  | [], rest => ']' :: rest
  | x :: xs, rest => ',' :: put x (putItems xs rest)

/-- The members after the first one, and the closing brace, in front of a rest. -/
def putMembers : List (String × Json) → List Char → List Char
  | [], rest => '}' :: rest
  | (k, x) :: xs, rest => ',' :: putString k (':' :: put x (putMembers xs rest))

end

/-- The compact text of a value. -/
def render (j : Json) : String := String.ofList (put j [])

end Json

end TopologyHooks
