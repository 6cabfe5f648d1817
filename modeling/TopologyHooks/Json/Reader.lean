import TopologyHooks.Json.Document

/-!
# Reading JSON text

* `Document.readValue` and the functions beside it read a text, given as its characters, into a
  document. Reading goes on over faults that only a reader of the value minds and stops at the
  others.
* Numbers: an integer without point and exponent that fits is exact. Every other number is a
  double: the digits that fit into 64 bits, rounded, times or over a power of ten, rounded again.
* Arrays and objects may be nested `Document.depthLimit` deep.
* `Document.read` reads a whole text; `Json.parse` gives its value.
-/

set_option autoImplicit false

namespace TopologyHooks

namespace Document

/-- What reading gives: the document, and the text after it unless reading stopped. -/
abbrev Reading := Document × Option (List Char)

/-- Reading stops here. -/
def stop (e : SyntaxError) : Reading := (.broken e, none)

/-- Reading stops inside a number. -/
def stopNumber (e : SyntaxError) : Reading := (.misspelt e false, none)

/-- Reading stops at the end of the text, where a number should go on. -/
def cutNumber : Reading := (.strict .eofValue false (some .invalidNumber), none)

/-- The greatest number of arrays and objects around a value. -/
def depthLimit : Nat := 127

/-- The blanks of JSON. -/
def isBlank (c : Char) : Bool := c == ' ' || c == '\n' || c == '\t' || c == '\r'

/-- The text without the blanks at its front. -/
def skipBlanks (cs : List Char) : List Char := cs.dropWhile isBlank

/-- Whether a document is the word `null`. -/
def isNull : Document → Bool
  | .null => true
  | _ => false

/-- The rest of a word such as `null`. -/
def readWord (result : Document) : List Char → List Char → Reading
  | [], rest => (result, some rest)
  | _ :: _, [] => (.misspelt .eofValue result.isNull, none)
  | w :: ws, c :: cs =>
    if w = c then readWord result ws cs else (.misspelt .expectedIdent result.isNull, none)

/-! ## Numbers -/

/-- The largest significand, `2^64 - 1`. -/
def maxSignificand : Nat := 18446744073709551615

/-- The value of a decimal digit. -/
def digit (c : Char) : Nat := c.toNat - '0'.toNat

/-- Takes digits before the point into the significand while it fits; gives the significand and
the number of digits left out. -/
def takeWhole (significand : Nat) : List Char → Nat × Nat
  | [] => (significand, 0)
  | c :: cs =>
    if maxSignificand < significand * 10 + digit c then (significand, cs.length + 1)
    else takeWhole (significand * 10 + digit c) cs

/-- Takes digits after the point into the significand while it fits; gives the significand and
the number of digits taken. -/
def takeFraction (significand : Nat) : List Char → Nat × Nat
  | [] => (significand, 0)
  | c :: cs =>
    if maxSignificand < significand * 10 + digit c then (significand, 0)
    else
      let (s, n) := takeFraction (significand * 10 + digit c) cs
      (s, n + 1)

/-- The significand over `10^k`, in steps of at most `10^308`. -/
def scaleDown (f : Double) (k : Nat) : Double :=
  if k ≤ 308 then f.divide (Double.powerOfTen k)
  else if k ≤ 616 then (f.divide (Double.powerOfTen 308)).divide (Double.powerOfTen (k - 308))
  else Double.zero

/-- The double `significand · 10^exponent`, if it is finite. -/
def scale? (significand : Nat) (exponent : Int) : Option Double :=
  let f := Double.ofNat significand
  if exponent < 0 then some (scaleDown f exponent.natAbs)
  else if significand = 0 then some Double.zero
  else if exponent ≤ 308 then f.times? (Double.powerOfTen exponent.natAbs)
  else none

/-- The document of a double, or of a number that is too large. -/
def ofDouble? (negative : Bool) : Option Double → Document
  | some d => .num (.double { d with negative := negative })
  | none => .strict .numberOutOfRange false none

/-- The document of an integer written without point and exponent. -/
def ofWhole (negative : Bool) (digits : List Char) : Document :=
  match takeWhole 0 digits with
  | (s, 0) =>
    if negative then
      if h : 0 < s ∧ s ≤ 9223372036854775808 then
        .num (.int (-(s : Int)) (by omega))
      else .num (.double { Double.ofNat s with negative := true })
    else if h : s < 18446744073709551616 then .num (.int (s : Int) (by omega))
    else .num (.double (Double.ofNat s))
  | (s, left) => ofDouble? negative (scale? s left)

/-- The text of a number is split into digits before the point, digits after it and exponent. -/
def ofParts (negative : Bool) (whole fraction : List Char) (exponent : Int) : Document :=
  let (s, left) := takeWhole 0 whole
  let (t, taken) := takeFraction s fraction
  ofDouble? negative (scale? t ((left : Int) - taken + exponent))

/-- The value of a run of digits. -/
def digitsValue (cs : List Char) : Nat := cs.foldl (fun n c => n * 10 + digit c) 0

/-- The document of a number with an exponent. An exponent of `2^31` or more makes a number zero
or too large. -/
def ofExponent (negative : Bool) (whole fraction : List Char) (down : Bool)
    (digits : List Char) : Document :=
  let e := digitsValue digits
  if e < 2147483648 then ofParts negative whole fraction (if down then -(e : Int) else e)
  else
    let t := (takeFraction (takeWhole 0 whole).1 fraction).1
    if t ≠ 0 ∧ ¬ down then .strict .numberOutOfRange false none
    else .num (.double { Double.zero with negative := negative })

/-- The exponent of a number, after its letter. -/
def readExponent (negative : Bool) (whole fraction : List Char) (cs : List Char) : Reading :=
  let (down, cs) := match cs with
    | '+' :: rest => (false, rest)
    | '-' :: rest => (true, rest)
    | _ => (false, cs)
  match cs with
  | [] => cutNumber
  | c :: _ =>
    if c.isDigit then
      (ofExponent negative whole fraction down (cs.takeWhile Char.isDigit),
        some (cs.dropWhile Char.isDigit))
    else stopNumber .invalidNumber

/-- The number after the digits before its point. -/
def readAfterWhole (negative : Bool) (whole : List Char) : List Char → Reading
  | '.' :: cs =>
    let fraction := cs.takeWhile Char.isDigit
    let rest := cs.dropWhile Char.isDigit
    match fraction, rest with
    | [], [] => cutNumber
    | [], _ :: _ => stopNumber .invalidNumber
    | _, 'e' :: more => readExponent negative whole fraction more
    | _, 'E' :: more => readExponent negative whole fraction more
    | _, _ => (ofParts negative whole fraction 0, some rest)
  | 'e' :: cs => readExponent negative whole [] cs
  | 'E' :: cs => readExponent negative whole [] cs
  | cs => (ofWhole negative whole, some cs)

/-- A number after its sign. -/
def readNumber (negative : Bool) : List Char → Reading
  | [] => cutNumber
  | '0' :: cs =>
    match cs with
    | c :: _ => if c.isDigit then stopNumber .invalidNumber else readAfterWhole negative ['0'] cs
    | [] => readAfterWhole negative ['0'] cs
  | c :: cs =>
    if c.isDigit then
      readAfterWhole negative (c :: cs.takeWhile Char.isDigit) (cs.dropWhile Char.isDigit)
    else stopNumber .invalidNumber

/-! ## Strings -/

/-- Where the reader of a string is. -/
inductive Place
  /-- Between characters. -/
  | plain
  /-- After a backslash. -/
  | escape
  /-- Inside `\u`, possibly after a leading surrogate: digits still to come, value so far. -/
  | hex (lead : Option Nat) (left value : Nat)
  /-- After a leading surrogate. -/
  | lead (high : Nat)
  /-- After a leading surrogate and a backslash. -/
  | leadEscape (high : Nat)

/-- The state of reading a string: the place, the characters so far, the last one first, and the
first fault that only a reader of the value minds. -/
structure Progress where
  place : Place
  chars : List Char
  fault : Option SyntaxError

/-- What one character does to the reading of a string. -/
inductive Step
  | more (p : Progress)
  | done (p : Progress)
  | fail (e : SyntaxError)

/-- The value of a hexadecimal digit. -/
def hexValue? (c : Char) : Option Nat :=
  if c.isDigit then some (c.toNat - 48)
  else if 'a' ≤ c ∧ c ≤ 'f' then some (c.toNat - 87)
  else if 'A' ≤ c ∧ c ≤ 'F' then some (c.toNat - 55)
  else none

/-- Whether fewer than four bytes are left, of which `seen` are read already. -/
def cutShort (seen : Nat) (cs : List Char) : Bool :=
  (cs.take 4).foldl (fun n c => n + c.utf8Size) seen < 4

/-- A character between characters. -/
def plainStep (p : Progress) (c : Char) : Step :=
  if c = '"' then .done { p with place := .plain }
  else if c = '\\' then .more { p with place := .escape }
  else if c.toNat < 0x20 then .fail .controlCharacter
  else .more { p with place := .plain, chars := c :: p.chars }

/-- A character after a backslash. -/
def escapeStep (p : Progress) (c : Char) : Step :=
  let put (d : Char) : Step := .more { p with place := .plain, chars := d :: p.chars }
  if c = '"' then put '"'
  else if c = '\\' then put '\\'
  else if c = '/' then put '/'
  else if c = 'b' then put '\x08'
  else if c = 'f' then put '\x0c'
  else if c = 'n' then put '\n'
  else if c = 'r' then put '\r'
  else if c = 't' then put '\t'
  else if c = 'u' then .more { p with place := .hex none 4 0 }
  else .fail .invalidEscape

/-- The state with a fault, unless there was one already. -/
def Progress.blame (p : Progress) (e : SyntaxError) : Progress :=
  { p with fault := p.fault.or (some e) }

/-- The end of four hexadecimal digits without a leading surrogate before them. -/
def unitStep (p : Progress) (n : Nat) : Step :=
  if 0xDC00 ≤ n ∧ n ≤ 0xDFFF then .more { p.blame .loneSurrogate with place := .plain }
  else if 0xD800 ≤ n ∧ n ≤ 0xDBFF then .more { p with place := .lead n }
  else .more { p with place := .plain, chars := Char.ofNat n :: p.chars }

/-- The end of four hexadecimal digits after a leading surrogate. -/
def pairStep (p : Progress) (high n : Nat) : Step :=
  if 0xDC00 ≤ n ∧ n ≤ 0xDFFF then
    let code := (high - 0xD800) * 0x400 + (n - 0xDC00) + 0x10000
    .more { p with place := .plain, chars := Char.ofNat code :: p.chars }
  else .more { p.blame .loneSurrogate with place := .plain }

/-- What a character does; `rest` is the text after it. -/
def step (p : Progress) (c : Char) (rest : List Char) : Step :=
  match p.place with
  | .plain => plainStep p c
  | .escape => escapeStep p c
  | .hex lead left value =>
    if cutShort (4 - left) (c :: rest) then .fail .eofString
    else
      match hexValue? c with
      | none => .fail .invalidEscape
      | some d =>
        if left = 1 then
          match lead with
          | none => unitStep p (value * 16 + d)
          | some high => pairStep p high (value * 16 + d)
        else .more { p with place := .hex lead (left - 1) (value * 16 + d) }
  | .lead high =>
    if c = '\\' then .more { p with place := .leadEscape high }
    else plainStep (p.blame .hexEscapeEnd) c
  | .leadEscape high =>
    if c = 'u' then .more { p with place := .hex (some high) 4 0 }
    else escapeStep (p.blame .hexEscapeEnd) c

/-- What reading a string gives. -/
inductive Chars
  /-- The string, and the text after it. -/
  | whole (s : String) (rest : List Char)
  /-- A fault for a reader of the value only, and the text after the string. -/
  | marred (e : SyntaxError) (rest : List Char)
  /-- Reading stopped, with a fault for a reader of the value and one for any other. -/
  | cut (e loose : SyntaxError)

/-- Reads a string after its opening quote. -/
def readChars (p : Progress) : List Char → Chars
  | [] => .cut (p.fault.getD .eofString) .eofString
  | c :: rest =>
    match step p c rest with
    | .more p => readChars p rest
    | .done p =>
      match p.fault with
      | none => .whole (String.ofList p.chars.reverse) rest
      | some e => .marred e rest
    | .fail e => .cut (p.fault.getD e) e

/-- The state at the opening quote of a string. -/
def opened : Progress := ⟨.plain, [], none⟩

/-- A string as a value. -/
def ofChars : Chars → Reading
  | .whole s rest => (.str s, some rest)
  | .marred e rest => (.strict e true none, some rest)
  | .cut e loose => (.strict e true (some loose), none)

/-! ## Values -/

/-- Wraps an array or object that is nested too deep. -/
def guardDepth (depth : Nat) (d : Document) : Document :=
  if depthLimit ≤ depth then .tooDeep d else d

mutual

/-- Reads a value that has `depth` arrays and objects around it. -/
def readValue : Nat → Nat → List Char → Reading
  | 0, _, _ => stop .expectedValue
  | fuel + 1, depth, cs =>
    match skipBlanks cs with
    | [] => stop .eofValue
    | 'n' :: rest => readWord .null ['u', 'l', 'l'] rest
    | 't' :: rest => readWord (.bool true) ['r', 'u', 'e'] rest
    | 'f' :: rest => readWord (.bool false) ['a', 'l', 's', 'e'] rest
    | '-' :: rest => readNumber true rest
    | '"' :: rest => ofChars (readChars opened rest)
    | '[' :: rest =>
      let (items, close, rest) := readItems fuel (depth + 1) true rest
      (guardDepth depth (.arr items close), rest)
    | '{' :: rest =>
      let (members, close, rest) := readMembers fuel (depth + 1) true rest
      (guardDepth depth (.obj members close), rest)
    | c :: rest => if c.isDigit then readNumber false (c :: rest) else stop .expectedValue

/-- Reads the items of an array up to its end; `first` before the first one. -/
def readItems : Nat → Nat → Bool → List Char →
    List Document × Option SyntaxError × Option (List Char)
  | 0, _, _, _ => ([], some .expectedValue, none)
  | fuel + 1, depth, first, cs =>
    let items (cs : List Char) :=
      match readValue fuel depth cs with
      | (x, none) => ([x], none, none)
      | (x, some rest) =>
        let (xs, close, rest) := readItems fuel depth false rest
        (x :: xs, close, rest)
    match skipBlanks cs with
    | [] => ([], some .eofList, none)
    | ']' :: rest => ([], none, some rest)
    | c :: rest =>
      if first then items (c :: rest)
      else if c = ',' then
        match skipBlanks rest with
        | [] => ([], some .eofValue, none)
        | ']' :: _ => ([], some .trailingComma, none)
        | more => items more
      else ([], some .expectedListEnd, none)

/-- Reads the members of an object up to its end; `first` before the first one. -/
def readMembers : Nat → Nat → Bool → List Char →
    List (String × Document) × Option SyntaxError × Option (List Char)
  | 0, _, _, _ => ([], some .expectedValue, none)
  | fuel + 1, depth, first, cs =>
    let value (keys : Document → List (String × Document)) (cs : List Char) :=
      match skipBlanks cs with
      | [] => (keys (.broken .eofObject), none, none)
      | ':' :: rest =>
        match readValue fuel depth rest with
        | (x, none) => (keys x, none, none)
        | (x, some rest) =>
          let (ms, close, rest) := readMembers fuel depth false rest
          (keys x ++ ms, close, rest)
      | _ :: _ => (keys (.broken .expectedColon), none, none)
    let badKey (e : SyntaxError) : String × Document := ("", .key e (.broken e))
    let member (cs : List Char) :=
      match readChars opened cs with
      | .whole name rest => value (fun x => [(name, x)]) rest
      | .marred e rest => value (fun x => [badKey e, ("", x)]) rest
      | .cut e loose => ([badKey e], some loose, none)
    match skipBlanks cs with
    | [] => ([], some .eofObject, none)
    | '}' :: rest => ([], none, some rest)
    | c :: rest =>
      if first then
        if c = '"' then member rest
        else
          let found := (readValue fuel depth (c :: rest)).1
          ([("", .key .keyNotString found)], some .keyNotString, none)
      else if c = ',' then
        match skipBlanks rest with
        | [] => ([], some .eofValue, none)
        | '"' :: more => member more
        | '}' :: _ => ([], some .trailingComma, none)
        | _ :: _ => ([], some .keyNotString, none)
      else ([], some .expectedObjectEnd, none)

end

/-- Reads a whole text: its document, and whether something other than blanks follows it. -/
def read (s : String) : Document × Option SyntaxError :=
  let cs := s.toList
  match readValue (2 * cs.length + 2) 0 cs with
  | (d, none) => (d, none)
  | (d, some rest) => (d, if skipBlanks rest = [] then none else some .trailingCharacters)

end Document

/-- The value of a JSON text. -/
def Json.parse (s : String) : Except SyntaxError Json :=
  match Document.read s with
  | (d, after) =>
    match d.json with
    | .ok j => Document.closing after j
    | .error e => .error e

end TopologyHooks
