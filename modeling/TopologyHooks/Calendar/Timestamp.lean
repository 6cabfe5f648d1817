import TopologyHooks.Text.Blank
import TopologyHooks.Text.Padded

/-!
# Points in time

* `Timestamp` — a date and a time of day in UTC, to the second. A time of day may name the leap
  second `:60`.
* `Timestamp.render` — its text, such as `2024-01-02T03:04:05Z`. A year outside `0000` to `9999`
  has a sign and at least four digits.
* `Timestamp.parse` — reads a date, `T` or a space, a time of day and an offset from UTC. Blanks
  are allowed before each number, mark and offset; a fraction of a second is read and dropped.
-/

set_option autoImplicit false

namespace TopologyHooks

namespace Calendar

/-- Whether a year has a 29th of February. -/
def isLeap (year : Int) : Bool :=
  year % 4 == 0 && (year % 100 != 0 || year % 400 == 0)

/-- The number of days of a month. -/
def monthLength (year : Int) (month : Nat) : Nat :=
  if month = 2 then (if isLeap year then 29 else 28)
  else if month = 4 ∨ month = 6 ∨ month = 9 ∨ month = 11 then 30
  else 31

/-- Every month has a first day. -/
theorem monthLength_pos (year : Int) (month : Nat) : 1 ≤ monthLength year month := by
  unfold monthLength; split
  · split <;> decide
  · split <;> decide

/-- A date of the Gregorian calendar. -/
structure Date where
  year : Int
  month : Nat
  day : Nat
  valid : 1 ≤ month ∧ month ≤ 12 ∧ 1 ≤ day ∧ day ≤ monthLength year month
  deriving DecidableEq

/-- The date with the given parts, if there is one. -/
def Date.of? (year : Int) (month day : Nat) : Option Date :=
  if h : 1 ≤ month ∧ month ≤ 12 ∧ 1 ≤ day ∧ day ≤ monthLength year month then
    some ⟨year, month, day, h⟩
  else none

/-- The day after. -/
def Date.next (d : Date) : Date :=
  if h : d.day + 1 ≤ monthLength d.year d.month then
    ⟨d.year, d.month, d.day + 1, d.valid.1, d.valid.2.1, by omega, h⟩
  else if h : d.month + 1 ≤ 12 then
    ⟨d.year, d.month + 1, 1, by omega, h, by omega, monthLength_pos ..⟩
  else ⟨d.year + 1, 1, 1, by decide, by decide, by decide, monthLength_pos ..⟩

/-- The day before. -/
def Date.previous (d : Date) : Date :=
  if h : 2 ≤ d.day then
    ⟨d.year, d.month, d.day - 1, d.valid.1, d.valid.2.1, by omega, by have := d.valid; omega⟩
  else if h : 2 ≤ d.month then
    ⟨d.year, d.month - 1, monthLength d.year (d.month - 1), by omega,
      by have := d.valid; omega, monthLength_pos .., Nat.le_refl _⟩
  else ⟨d.year - 1, 12, monthLength (d.year - 1) 12, by decide, by decide, monthLength_pos ..,
    Nat.le_refl _⟩

end Calendar

open Calendar

/-- A date and a time of day in UTC. -/
structure Timestamp where
  date : Date
  hour : Nat
  minute : Nat
  second : Nat
  valid : hour < 24 ∧ minute < 60 ∧ second ≤ 60
  deriving DecidableEq

namespace Timestamp

/-! ## Text -/

/-- The text of a year. -/
def yearText (year : Int) : List Char :=
  if 0 ≤ year ∧ year ≤ 9999 then Text.padded 4 year.natAbs
  else (if year < 0 then '-' else '+') :: Text.padded 4 year.natAbs

/-- The text of a point in time. -/
def render (t : Timestamp) : String :=
  let two : Nat → List Char := Text.padded 2
  String.ofList (yearText t.date.year ++ '-' :: two t.date.month ++ '-' :: two t.date.day
    ++ 'T' :: two t.hour ++ ':' :: two t.minute ++ ':' :: two t.second ++ ['Z'])

/-- Why a text is no point in time. -/
inductive Malformed
  | outOfRange
  | invalid
  | tooShort
  | trailing
  deriving DecidableEq

/-- The text of a malformation. -/
def Malformed.message : Malformed → String
  | .outOfRange => "input is out of range"
  | .invalid => "input contains invalid characters"
  | .tooShort => "premature end of input"
  | .trailing => "trailing input"

/-! ## Reading -/

/-- The largest value of a number, `2^63 - 1`. -/
def maxNumber : Nat := 9223372036854775807

/-- Digits of a number, at most `width` of them; `seen` when there was one already. -/
def digits (n : Nat) (seen : Bool) : Nat → List Char → Except Malformed (Nat × List Char)
  | 0, cs => .ok (n, cs)
  | _ + 1, [] => if seen then .ok (n, []) else .error .tooShort
  | width + 1, c :: cs =>
    if c.isDigit then
      let n := n * 10 + (c.toNat - 48)
      if maxNumber < n then .error .outOfRange else digits n true width cs
    else if seen then .ok (n, c :: cs)
    else .error .invalid

/-- A number of at most `width` digits between two bounds, after blanks. -/
def number (width low high : Nat) (cs : List Char) :
    Except Malformed (Nat × List Char) := do
  let (n, cs) ← digits 0 false width (Text.trimFront cs)
  if n < low ∨ high < n then .error .outOfRange else .ok (n, cs)

/-- A year: four digits, or any number of them after a sign. -/
def year (cs : List Char) : Except Malformed (Int × List Char) := do
  let cs := Text.trimFront cs
  let (n, cs) ← match cs with
    | '-' :: rest => (digits 0 false rest.length.succ rest).map fun (n, cs) => (-(n : Int), cs)
    | '+' :: rest => (digits 0 false rest.length.succ rest).map fun (n, cs) => ((n : Int), cs)
    | _ => (digits 0 false 4 cs).map fun (n, cs) => ((n : Int), cs)
  if n < -2147483648 ∨ 2147483647 < n then .error .outOfRange else .ok (n, cs)

/-- A mark between numbers, after blanks. -/
def mark (c : Char) (cs : List Char) : Except Malformed (List Char) :=
  match Text.trimFront cs with
  | [] => .error .tooShort
  | d :: rest => if d = c then .ok rest else .error .invalid

/-- A fraction of a second, if there is one. -/
def fraction : List Char → Except Malformed (List Char)
  | '.' :: cs => do
    let (_, rest) ← digits 0 false 9 cs
    return rest.dropWhile Char.isDigit
  | cs => .ok cs

/-- Two digits of an offset. -/
def twoDigits : List Char → Except Malformed ((Nat × Nat) × List Char)
  | a :: b :: rest =>
    if a.isDigit ∧ b.isDigit then .ok ((a.toNat - 48, b.toNat - 48), rest) else .error .invalid
  | [a] => if a.utf8Size < 2 then .error .tooShort else .error .invalid
  | [] => .error .tooShort

/-- Whether a text starts with the name of UTC. -/
def namesUtc : List Char → Bool
  | a :: b :: c :: _ =>
    (a == 'U' || a == 'u') && (b == 'T' || b == 't') && (c == 'C' || c == 'c')
  | _ => false

/-- Hours and minutes of an offset after its sign, in minutes. -/
def offsetSize (cs : List Char) : Except Malformed (Nat × List Char) := do
  let ((a, b), cs) ← twoDigits cs
  let cs := cs.dropWhile fun c => c == ':' || Text.isBlank c
  let ((m, n), rest) ← twoDigits cs
  if 6 ≤ m then .error .outOfRange else .ok ((a * 10 + b) * 60 + m * 10 + n, rest)

/-- An offset from UTC in minutes. -/
def offset (cs : List Char) : Except Malformed (Int × List Char) :=
  if namesUtc cs then .ok (0, cs.drop 3)
  else
    match cs with
    | [] => .error .tooShort
    | 'Z' :: rest => .ok (0, rest)
    | 'z' :: rest => .ok (0, rest)
    | '+' :: rest => (offsetSize rest).map fun (n, cs) => ((n : Int), cs)
    | '-' :: rest => (offsetSize rest).map fun (n, cs) => (-(n : Int), cs)
    | '\u2212' :: rest => (offsetSize rest).map fun (n, cs) => (-(n : Int), cs)
    | _ => .error .invalid

/-- The time of day `minutes` after midnight of a date, which may be the day before or after. -/
def ofMinutes (date : Date) (minutes : Int) (second : Nat) (h : second ≤ 60) : Timestamp :=
  let day := if minutes < 0 then date.previous else if 1440 ≤ minutes then date.next else date
  let n := (minutes % 1440).toNat
  ⟨day, n / 60, n % 60, second, by omega, Nat.mod_lt _ (by decide), h⟩

/-- A local date and time, moved to UTC. -/
def ofLocal (date : Date) (hour minute second : Nat) (offset : Int) : Except Malformed Timestamp :=
  if offset = 0 then
    if h : hour < 24 ∧ minute < 60 ∧ second ≤ 60 then .ok ⟨date, hour, minute, second, h⟩
    else .error .outOfRange
  else if h : second ≤ 60 then
    .ok (ofMinutes date ((hour * 60 + minute : Nat) - offset) second h)
  else .error .outOfRange

/-- The mark between date and time. -/
def separator : List Char → Except Malformed (List Char)
  | [] => .error .tooShort
  | c :: cs => if c = 'T' ∨ c = 't' ∨ c = ' ' then .ok cs else .error .invalid

/-- The point in time that a text stands for. -/
def parse (s : String) : Except Malformed Timestamp := do
  let (y, cs) ← year s.toList
  let cs ← mark '-' cs
  let (mo, cs) ← number 2 1 12 cs
  let cs ← mark '-' cs
  let (d, cs) ← number 2 1 31 cs
  let cs ← separator cs
  let (h, cs) ← number 2 0 23 cs
  let cs ← mark ':' cs
  let (mi, cs) ← number 2 0 59 cs
  let cs ← mark ':' cs
  let (sec, cs) ← number 2 0 60 cs
  let cs ← fraction cs
  let (off, cs) ← offset (Text.trimFront cs)
  if Text.trimFront cs ≠ [] then throw .trailing
  if 1440 ≤ off.natAbs ∨ y < -262143 ∨ 262142 < y then throw .outOfRange
  match Date.of? y mo d with
  | some date => ofLocal date h mi sec off
  | none => throw .outOfRange

end Timestamp

end TopologyHooks
