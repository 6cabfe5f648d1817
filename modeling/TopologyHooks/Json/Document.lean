import TopologyHooks.Json.Basic

/-!
# JSON texts as written

* `SyntaxError` — the ways in which a text fails to be JSON.
* `Document` — a text as it was written: members in text order, repeated keys kept, and a fault
  at the place where the text stops being JSON. So a reader that walks the document in text order
  meets what is wrong with the text, and what is wrong with a value, in the order in which both
  stand there.
* `Document.json` — the value of a document, `Document.skip` — the fault met by a reader that
  ignores it. Ignoring is more lenient: it minds neither the size of numbers, nor lone surrogates,
  nor the depth of nesting; and it tells no comma at the end of a list or object from other junk.
-/

set_option autoImplicit false

namespace TopologyHooks

/-- A way in which a text fails to be JSON. -/
inductive SyntaxError
  | eofList
  | eofObject
  | eofString
  | eofValue
  | expectedColon
  | expectedListEnd
  | expectedObjectEnd
  | expectedIdent
  | expectedValue
  | invalidEscape
  | invalidNumber
  | numberOutOfRange
  | controlCharacter
  | keyNotString
  | loneSurrogate
  | trailingComma
  | trailingCharacters
  | hexEscapeEnd
  | tooDeep
  deriving DecidableEq

/-- The text of a syntax error. -/
def SyntaxError.message : SyntaxError → String
  | .eofList => "EOF while parsing a list"
  | .eofObject => "EOF while parsing an object"
  | .eofString => "EOF while parsing a string"
  | .eofValue => "EOF while parsing a value"
  | .expectedColon => "expected `:`"
  | .expectedListEnd => "expected `,` or `]`"
  | .expectedObjectEnd => "expected `,` or `\x7d`"
  | .expectedIdent => "expected ident"
  | .expectedValue => "expected value"
  | .invalidEscape => "invalid escape"
  | .invalidNumber => "invalid number"
  | .numberOutOfRange => "number out of range"
  | .controlCharacter =>
    "control character (\\u0000-\\u001F) found while parsing a string"
  | .keyNotString => "key must be a string"
  | .loneSurrogate => "lone leading surrogate in hex escape"
  | .trailingComma => "trailing comma"
  | .trailingCharacters => "trailing characters"
  | .hexEscapeEnd => "unexpected end of hex escape"
  | .tooDeep => "recursion limit exceeded"

/-- A JSON text as written, as far as it is JSON. -/
inductive Document
  | null
  | bool (b : Bool)
  | num (n : Number)
  | str (s : String)
  /-- Items, and what is wrong after the last one. -/
  | arr (items : List Document) (close : Option SyntaxError)
  /-- Members, and what is wrong after the last one. -/
  | obj (members : List (String × Document)) (close : Option SyntaxError)
  /-- No value begins here, or a string is broken off. -/
  | broken (e : SyntaxError)
  /-- A word or a number that goes wrong; the flag tells whether the word begins like `null`. -/
  | misspelt (e : SyntaxError) (likeNull : Bool)
  /-- A string or number with a fault for a reader of the value, and possibly another fault for a
  reader who ignores it. -/
  | strict (e : SyntaxError) (quoted : Bool) (loose : Option SyntaxError)
  /-- An array or object that is nested too deep for a reader of the value. -/
  | tooDeep (d : Document)
  /-- In place of a key: the fault for a reader of the object, and what stands there. -/
  | key (e : SyntaxError) (found : Document)

namespace Document

instance : Inhabited Document := ⟨.null⟩

/-- A result, unless something is wrong after it. -/
def closing {α : Type} (close : Option SyntaxError) (a : α) : Except SyntaxError α :=
  match close with
  | none => .ok a
  | some e => .error e

mutual

/-- The value of a document; members are sorted and of a repeated key the last one wins. -/
def json : Document → Except SyntaxError Json
  | .null => .ok .null
  | .bool b => .ok (.bool b)
  | .num n => .ok (.num n)
  | .str s => .ok (.str s)
  | .arr items close =>
    match jsonItems items with
    | .ok xs => closing close (.arr xs)
    | .error e => .error e
  | .obj members close =>
    match jsonMembers members with
    | .ok ms => closing close (Json.object ms)
    | .error e => .error e
  | .broken e => .error e
  | .misspelt e _ => .error e
  | .strict e _ _ => .error e
  | .tooDeep _ => .error .tooDeep
  | .key e _ => .error e

/-- The values of items, up to the first fault. -/
def jsonItems : List Document → Except SyntaxError (List Json)
  | [] => .ok []
  | x :: xs =>
    match json x with
    | .error e => .error e
    | .ok j =>
      match jsonItems xs with
      | .error e => .error e
      | .ok js => .ok (j :: js)

/-- The values of members, up to the first fault. -/
def jsonMembers : List (String × Document) → Except SyntaxError (List (String × Json))
  | [] => .ok []
  | (k, x) :: xs =>
    match json x with
    | .error e => .error e
    | .ok j =>
      match jsonMembers xs with
      | .error e => .error e
      | .ok js => .ok ((k, j) :: js)

end

/-- The end of an array for a reader who ignores it: it expects a value after every comma. -/
def looseListEnd : Option SyntaxError → Option SyntaxError
  | some .trailingComma => some .expectedValue
  | close => close

/-- The end of an object for a reader who ignores it: it expects a key after every comma. -/
def looseObjectEnd : Option SyntaxError → Option SyntaxError
  | some .trailingComma => some .keyNotString
  | some .eofValue => some .eofObject
  | close => close

mutual

/-- The fault that a reader meets who ignores the value. -/
def skip : Document → Option SyntaxError
  | .arr items close => (skipItems items).or (looseListEnd close)
  | .obj members close => (skipMembers members).or (looseObjectEnd close)
  | .broken e => some e
  | .misspelt e _ => some e
  | .strict _ _ loose => loose
  | .tooDeep d => skip d
  | .key e _ => some e
  | _ => none

/-- The first fault among ignored items. -/
def skipItems : List Document → Option SyntaxError
  | [] => none
  | x :: xs => (skip x).or (skipItems xs)

/-- The first fault among ignored members; keys are not looked at. -/
def skipMembers : List (String × Document) → Option SyntaxError
  | [] => none
  | (_, .key _ _) :: xs => skipMembers xs
  | (_, x) :: xs => (skip x).or (skipMembers xs)

end

mutual

/-- The number of arrays and objects around the innermost value. -/
def depth : Document → Nat
  | .arr items _ => depthItems items + 1
  | .obj members _ => depthMembers members + 1
  | .tooDeep d => depth d
  | _ => 0

/-- The greatest depth among items. -/
def depthItems : List Document → Nat
  | [] => 0
  | x :: xs => max (depth x) (depthItems xs)

/-- The greatest depth among members. -/
def depthMembers : List (String × Document) → Nat
  | [] => 0
  | (_, x) :: xs => max (depth x) (depthMembers xs)

end

end Document

end TopologyHooks
