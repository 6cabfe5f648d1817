import TopologyHooks.Text.Unprintable

/-!
# Quoted text

`quoted` writes a text between double quotes. A quote and a backslash get a backslash in front;
newline, return, tab and NUL have short names; a character without a picture is written as its
code in hexadecimal between braces; all others stand for themselves.
-/

set_option autoImplicit false

namespace TopologyHooks.Text

/-- The code of a character in lower-case hexadecimal. -/
def codeText (c : Char) : List Char :=
  '\\' :: 'u' :: '{' :: Nat.toDigits 16 c.toNat ++ ['}']

/-- How a character is written inside quotes. -/
def quotedChar (c : Char) : List Char :=
  if c = '"' then ['\\', '"']
  else if c = '\\' then ['\\', '\\']
  else if c = '\n' then ['\\', 'n']
  else if c = '\r' then ['\\', 'r']
  else if c = '\t' then ['\\', 't']
  else if c = '\x00' then ['\\', '0']
  else if isUnprintable c then codeText c
  else [c]

/-- A text between double quotes. -/
def quoted (s : String) : String :=
  String.ofList ('"' :: s.toList.flatMap quotedChar ++ ['"'])

/-- Texts between double quotes in brackets, separated by commas. -/
def quotedList (xs : List String) : String :=
  "[" ++ ", ".intercalate (xs.map quoted) ++ "]"

end TopologyHooks.Text
