import TopologyHooks.Proofs.Json.Lexing

/-!
# Compact JSON text is read back

Main statement: a value that is nested no deeper than `Document.depthLimit` and whose numbers are
exact (`Json.Legible`) is read back from its compact text, with the members of its objects sorted
(`Json.parse_render`); an ordered one is read back as it was (`Json.parse_render_of_ordered`).

The text is read along the value: `Document.readValue_put` for a value in front of any text that
does not go on with a number, together with the items and members after the first one. Reading
calls itself at most twice for every character, which is what the fuel of `Document.read` allows.
-/

set_option autoImplicit false

namespace TopologyHooks

namespace Json

/-! ## Legible values, documents and sorted values -/

mutual

/-- Whether all numbers in a value are legible. -/
def Legible : Json → Prop
  | .num n => n.Legible
  | .arr items => LegibleItems items
  | .obj members => LegibleMembers members
  | _ => True

/-- Whether all numbers in items are legible. -/
def LegibleItems : List Json → Prop
  | [] => True
  | x :: xs => Legible x ∧ LegibleItems xs

/-- Whether all numbers in the values of members are legible. -/
def LegibleMembers : List (String × Json) → Prop
  | [] => True
  | (_, x) :: xs => Legible x ∧ LegibleMembers xs

end

/-- Members are legible exactly if the value of each is. -/
theorem legibleMembers_iff {members : List (String × Json)} :
    LegibleMembers members ↔ ∀ e ∈ members, Legible e.2 := by
  induction members with
  | nil => simp [LegibleMembers]
  | cons e rest ih => simp [LegibleMembers, ih]

/-- Sorting the members of an object leaves their numbers alone. -/
theorem legible_object {members : List (String × Json)} (h : LegibleMembers members) :
    (object members).Legible := by
  refine legibleMembers_iff.2 ?_
  intro e he
  exact legibleMembers_iff.1 h e ((Assoc.mem_insertAll he).resolve_left List.not_mem_nil)

/-- Sorting the members of an object does not nest them deeper. -/
theorem depth_object_le {members : List (String × Json)} {n : Nat} (h : depthMembers members ≤ n) :
    (object members).depth ≤ n + 1 := by
  refine Nat.succ_le_succ (depthMembers_le_iff.2 ?_)
  intro e he
  exact depthMembers_le_iff.1 h e ((Assoc.mem_insertAll he).resolve_left List.not_mem_nil)

mutual

/-- The document of the compact text of a value. -/
def document : Json → Document
  | .null => .null
  | .bool b => .bool b
  | .num n => .num n
  | .str s => .str s
  | .arr items => .arr (documents items) none
  | .obj members => .obj (memberDocuments members) none

/-- The documents of items. -/
def documents : List Json → List Document
  | [] => []
  | x :: xs => document x :: documents xs

/-- The documents of the values of members. -/
def memberDocuments : List (String × Json) → List (String × Document)
  | [] => []
  | (k, x) :: xs => (k, document x) :: memberDocuments xs

end

mutual

/-- A value with the members of all objects sorted; of a repeated key the last one wins. -/
def sorted : Json → Json
  | .arr items => .arr (sortedItems items)
  | .obj members => object (sortedMembers members)
  | j => j

/-- Items with the members of all objects sorted. -/
def sortedItems : List Json → List Json
  | [] => []
  | x :: xs => sorted x :: sortedItems xs

/-- Members whose values have the members of all objects sorted. -/
def sortedMembers : List (String × Json) → List (String × Json)
  | [] => []
  | (k, x) :: xs => (k, sorted x) :: sortedMembers xs

end

end Json

/-! ## Sorting -/

namespace Json

mutual

/-- An ordered value is sorted. -/
theorem sorted_eq_self : ∀ (j : Json), j.Ordered → j.sorted = j
  | .null, _ | .bool _, _ | .num _, _ | .str _, _ => rfl
  | .arr items, h => by rw [sorted, sortedItems_eq_self items h]
  | .obj members, h => by
    rw [sorted, sortedMembers_eq_self members h.2, object, Assoc.insertAll_eq_self h.1]

/-- Sorting changes nothing in ordered items. -/
theorem sortedItems_eq_self : ∀ (items : List Json), OrderedItems items →
    sortedItems items = items
  | [], _ => rfl
  | x :: xs, h => by rw [sortedItems, sorted_eq_self x h.1, sortedItems_eq_self xs h.2]

/-- Sorting changes nothing in the values of ordered members. -/
theorem sortedMembers_eq_self : ∀ (members : List (String × Json)), OrderedMembers members →
    sortedMembers members = members
  | [], _ => rfl
  | (k, x) :: xs, h => by rw [sortedMembers, sorted_eq_self x h.1, sortedMembers_eq_self xs h.2]

end

mutual

/-- The value of the document of a text is the value that was written, sorted. -/
theorem json_document : ∀ (j : Json), j.document.json = .ok j.sorted
  | .null | .bool _ | .num _ | .str _ => rfl
  | .arr items => by
    rw [document, Document.json, jsonItems_documents items]
    rfl
  | .obj members => by
    rw [document, Document.json, jsonMembers_memberDocuments members]
    rfl

/-- The documents of items are read as the items, sorted. -/
theorem jsonItems_documents : ∀ (items : List Json),
    Document.jsonItems (documents items) = .ok (sortedItems items)
  | [] => rfl
  | x :: xs => by
    rw [documents, Document.jsonItems, json_document x, jsonItems_documents xs]
    rfl

/-- The documents of members are read as the members, with their values sorted. -/
theorem jsonMembers_memberDocuments : ∀ (members : List (String × Json)),
    Document.jsonMembers (memberDocuments members) = .ok (sortedMembers members)
  | [] => rfl
  | (k, x) :: xs => by
    rw [memberDocuments, Document.jsonMembers, json_document x, jsonMembers_memberDocuments xs]
    rfl

end

end Json

/-! ## Reading along a value -/

namespace Document

open Json

/-- A digit is neither a blank nor the end of an array. -/
theorem isBlank_of_isDigit {c : Char} (h : c.isDigit = true) : isBlank c = false ∧ c ≠ ']' := by
  have hne : c ≠ ' ' ∧ c ≠ '\n' ∧ c ≠ '\t' ∧ c ≠ '\r' ∧ c ≠ ']' := by
    refine ⟨?_, ?_, ?_, ?_, ?_⟩ <;> rintro rfl <;> exact absurd h (by decide)
  obtain ⟨h1, h2, h3, h4, h5⟩ := hne
  exact ⟨by simp [isBlank, h1, h2, h3, h4], h5⟩

/-- The text of a value begins with neither a blank nor the end of an array. -/
theorem exists_put {j : Json} (h : j.Legible) (rest : List Char) :
    ∃ c cs, put j rest = c :: cs ∧ isBlank c = false ∧ c ≠ ']' := by
  cases j with
  | null => exact ⟨'n', _, rfl, rfl, by decide⟩
  | bool b => cases b <;> exact ⟨_, _, rfl, rfl, by decide⟩
  | num n =>
    obtain ⟨negative, size, htext, hread⟩ := Number.Legible.text h
    rw [put, htext]
    cases negative with
    | true => exact ⟨'-', _, rfl, rfl, by decide⟩
    | false =>
      obtain ⟨c, more, rfl, hc⟩ := exists_digit_of_readNumber hread
      exact ⟨c, _, rfl, isBlank_of_isDigit hc⟩
  | str s => exact ⟨'"', _, rfl, rfl, by decide⟩
  | arr items => cases items <;> exact ⟨'[', _, rfl, rfl, by decide⟩
  | obj members => rcases members with _ | ⟨⟨k, x⟩, xs⟩ <;> exact ⟨'\x7b', _, rfl, rfl, by decide⟩

/-- A text that begins with no blank has none to skip. -/
theorem skipBlanks_cons {c : Char} {cs : List Char} (h : isBlank c = false) :
    skipBlanks (c :: cs) = c :: cs := by
  rw [skipBlanks, List.dropWhile_cons_of_neg (by simp [h])]

/-- A value that starts with a digit is a number. -/
theorem readValue_digit {c : Char} (hc : c.isDigit = true) (fuel depth : Nat) (cs : List Char) :
    readValue (fuel + 1) depth (c :: cs) = readNumber false (c :: cs) := by
  rw [readValue, skipBlanks_cons (isBlank_of_isDigit hc).1]
  split
  case h_1 heq => cases heq
  case h_9 heq =>
    obtain ⟨rfl, rfl⟩ := List.cons.inj heq
    exact if_pos hc
  all_goals
    rename_i heq
    obtain ⟨rfl, -⟩ := List.cons.inj heq
    exact absurd hc (by decide)

/-- A number in front of a text that does not go on with it. -/
theorem readValue_number {n : Number} (h : n.Legible) {rest : List Char} (hrest : Stops rest)
    (fuel depth : Nat) :
    readValue (fuel + 1) depth (numberText n ++ rest) = (.num n, some rest) := by
  obtain ⟨negative, size, htext, hread⟩ := Number.Legible.text h
  have happend := readNumber_append hrest hread
  rw [htext]
  cases negative with
  | true => exact happend
  | false =>
    obtain ⟨c, more, rfl, hc⟩ := exists_digit_of_readNumber hread
    exact (readValue_digit hc fuel depth (more ++ rest)).trans happend

section

variable {fuel depth : Nat} {x : Document} {close : Option SyntaxError}
  {after : Option (List Char)} {rest rest' : List Char}

/-- The first item of an array, when it begins with neither a blank nor the end of the array. -/
theorem readItems_first {c : Char} {cs : List Char} {xs : List Document}
    (hc : isBlank c = false ∧ c ≠ ']')
    (hx : readValue fuel depth (c :: cs) = (x, some rest))
    (hxs : readItems fuel depth false rest = (xs, close, after)) :
    readItems (fuel + 1) depth true (c :: cs) = (x :: xs, close, after) := by
  rw [readItems, skipBlanks_cons hc.1]
  split
  case h_1 heq => cases heq
  case h_2 heq => exact absurd (List.cons.inj heq).1 hc.2
  case h_3 heq =>
    obtain ⟨rfl, rfl⟩ := List.cons.inj heq
    simp only [if_true, hx, hxs]

/-- A later item of an array, after its comma. -/
theorem readItems_next {c : Char} {cs : List Char} {xs : List Document}
    (hc : isBlank c = false ∧ c ≠ ']')
    (hx : readValue fuel depth (c :: cs) = (x, some rest))
    (hxs : readItems fuel depth false rest = (xs, close, after)) :
    readItems (fuel + 1) depth false (',' :: c :: cs) = (x :: xs, close, after) := by
  have hcomma : skipBlanks (',' :: c :: cs) = ',' :: c :: cs := skipBlanks_cons rfl
  rw [readItems, hcomma]
  split
  case h_1 heq => cases heq
  case h_2 heq => exact absurd (List.cons.inj heq).1 (by decide)
  case h_3 heq =>
    obtain ⟨rfl, rfl⟩ := List.cons.inj heq
    simp only [Bool.false_eq_true, if_false, if_true, skipBlanks_cons hc.1]
    split
    case h_1 heq => cases heq
    case h_2 heq => exact absurd (List.cons.inj heq).1 hc.2
    case h_3 => simp only [hx, hxs]

/-- The first member of an object. -/
theorem readMembers_first {name : String} {ms : List (String × Document)}
    (hx : readValue fuel depth rest = (x, some rest'))
    (hms : readMembers fuel depth false rest' = (ms, close, after)) :
    readMembers (fuel + 1) depth true (putString name (':' :: rest)) =
      ((name, x) :: ms, close, after) := by
  have hquote : skipBlanks (putString name (':' :: rest)) = putString name (':' :: rest) :=
    skipBlanks_cons rfl
  have hcolon : skipBlanks (':' :: rest) = ':' :: rest := skipBlanks_cons rfl
  have hname := readChars_opened name (':' :: rest)
  rw [readMembers, hquote]
  split
  case h_1 heq => cases heq
  case h_2 heq => exact absurd (List.cons.inj heq).1 (by decide)
  case h_3 heq =>
    obtain ⟨rfl, rfl⟩ := List.cons.inj heq
    simp only [if_true, hname, hcolon, hx, hms]
    rfl

/-- A later member of an object, after its comma. -/
theorem readMembers_next {name : String} {ms : List (String × Document)}
    (hx : readValue fuel depth rest = (x, some rest'))
    (hms : readMembers fuel depth false rest' = (ms, close, after)) :
    readMembers (fuel + 1) depth false (',' :: putString name (':' :: rest)) =
      ((name, x) :: ms, close, after) := by
  have hcomma : skipBlanks (',' :: putString name (':' :: rest)) =
      ',' :: putString name (':' :: rest) := skipBlanks_cons rfl
  have hquote : skipBlanks (putString name (':' :: rest)) = putString name (':' :: rest) :=
    skipBlanks_cons rfl
  have hcolon : skipBlanks (':' :: rest) = ':' :: rest := skipBlanks_cons rfl
  have hname := readChars_opened name (':' :: rest)
  rw [readMembers, hcomma]
  split
  case h_1 heq => cases heq
  case h_2 heq => exact absurd (List.cons.inj heq).1 (by decide)
  case h_3 heq =>
    obtain ⟨rfl, rfl⟩ := List.cons.inj heq
    rw [hquote]
    simp only [Bool.false_eq_true, if_false, if_true, putString, hname, hcolon, hx, hms]
    rfl

end

/-! ## Lengths -/

/-- Writing a text puts something in front. -/
theorem length_lt_putString (s : String) (rest : List Char) :
    rest.length < (putString s rest).length := by
  have hchars : ∀ (cs : List Char), rest.length < (putChars cs ('"' :: rest)).length := by
    intro cs
    induction cs with
    | nil => exact Nat.lt_succ_self _
    | cons c cs ih =>
      rw [putChars, List.length_append]
      omega
  have := hchars s.toList
  rw [putString, List.length_cons]
  omega

mutual

/-- A value takes at least one character. -/
theorem length_lt_put : ∀ {j : Json}, j.Legible → ∀ (rest : List Char),
    rest.length < (put j rest).length
  | .null, _, rest => by
    simp only [put, List.length_cons]
    omega
  | .bool b, _, rest => by
    cases b with
    | true =>
      simp only [put, List.length_cons]
      omega
    | false =>
      simp only [put, List.length_cons]
      omega
  | .num n, h, rest => by
    obtain ⟨negative, size, htext, hread⟩ := Number.Legible.text h
    obtain ⟨c, more, rfl, -⟩ := exists_digit_of_readNumber hread
    rw [put, htext, List.length_append]
    cases negative with
    | true =>
      simp only [if_true, List.length_cons]
      omega
    | false =>
      simp only [Bool.false_eq_true, if_false, List.length_cons]
      omega
  | .str s, _, rest => length_lt_putString s rest
  | .arr [], _, rest => by
    simp only [put, List.length_cons]
    omega
  | .arr (x :: xs), h, rest => by
    have hx := length_lt_put h.1 (putItems xs rest)
    have hxs := length_lt_putItems h.2 rest
    rw [put, List.length_cons]
    omega
  | .obj [], _, rest => by
    simp only [put, List.length_cons]
    omega
  | .obj ((k, x) :: xs), h, rest => by
    have hk := length_lt_putString k (':' :: put x (putMembers xs rest))
    have hx := length_lt_put h.1 (putMembers xs rest)
    have hxs := length_lt_putMembers h.2 rest
    rw [List.length_cons] at hk
    rw [put, List.length_cons]
    omega

/-- Writing legible items puts something in front. -/
theorem length_lt_putItems : ∀ {xs : List Json}, LegibleItems xs → ∀ (rest : List Char),
    rest.length < (putItems xs rest).length
  | [], _, rest => Nat.lt_succ_self _
  | x :: xs, h, rest => by
    have hx := length_lt_put h.1 (putItems xs rest)
    have hxs := length_lt_putItems h.2 rest
    rw [putItems, List.length_cons]
    omega

/-- Writing legible members puts something in front. -/
theorem length_lt_putMembers : ∀ {xs : List (String × Json)}, LegibleMembers xs →
    ∀ (rest : List Char), rest.length < (putMembers xs rest).length
  | [], _, rest => Nat.lt_succ_self _
  | (k, x) :: xs, h, rest => by
    have hk := length_lt_putString k (':' :: put x (putMembers xs rest))
    have hx := length_lt_put h.1 (putMembers xs rest)
    have hxs := length_lt_putMembers h.2 rest
    rw [List.length_cons] at hk
    rw [putMembers, List.length_cons]
    omega

end

/-! ## Values, items and members -/

/-- An array that is not nested too deep. -/
theorem readValue_arr {fuel depth : Nat} {cs rest : List Char} {items : List Document}
    (hdepth : depth < depthLimit)
    (h : readItems fuel (depth + 1) true cs = (items, none, some rest)) :
    readValue (fuel + 1) depth ('[' :: cs) = (.arr items none, some rest) := by
  have hguard : guardDepth depth (.arr items none) = .arr items none := if_neg (by omega)
  change (guardDepth depth (.arr (readItems fuel (depth + 1) true cs).1
    (readItems fuel (depth + 1) true cs).2.1), (readItems fuel (depth + 1) true cs).2.2) = _
  rw [h, hguard]

/-- An object that is not nested too deep. -/
theorem readValue_obj {fuel depth : Nat} {cs rest : List Char}
    {members : List (String × Document)} (hdepth : depth < depthLimit)
    (h : readMembers fuel (depth + 1) true cs = (members, none, some rest)) :
    readValue (fuel + 1) depth ('\x7b' :: cs) = (.obj members none, some rest) := by
  have hguard : guardDepth depth (.obj members none) = .obj members none := if_neg (by omega)
  change (guardDepth depth (.obj (readMembers fuel (depth + 1) true cs).1
    (readMembers fuel (depth + 1) true cs).2.1), (readMembers fuel (depth + 1) true cs).2.2) = _
  rw [h, hguard]

/-- What is written for items does not go on with a number before it. -/
theorem stops_putItems (xs : List Json) (rest : List Char) : Stops (putItems xs rest) := by
  cases xs with
  | nil => exact stops_cons (by decide)
  | cons x xs => exact stops_cons (by decide)

/-- What is written for members does not go on with a number before it. -/
theorem stops_putMembers (xs : List (String × Json)) (rest : List Char) :
    Stops (putMembers xs rest) := by
  cases xs with
  | nil => exact stops_cons (by decide)
  | cons x xs => exact stops_cons (by decide)

mutual

/-- A value is read back, in front of a text that does not go on with a number. -/
theorem readValue_put : ∀ {j : Json}, j.Legible → ∀ (fuel depth : Nat) {rest : List Char},
    Stops rest → depth + j.depth ≤ depthLimit → 2 * (put j rest).length ≤ fuel →
    readValue fuel depth (put j rest) = (j.document, some rest)
  -- fuel for two steps a character is never used up, as every value has a character
  | j, hj, 0, depth, rest, _, _, hfuel => by
    have := length_lt_put hj rest
    omega
  | .null, _, fuel + 1, depth, rest, _, _, _ => rfl
  | .bool b, _, fuel + 1, depth, rest, _, _, _ => by cases b <;> rfl
  | .num n, hj, fuel + 1, depth, rest, hrest, _, _ => readValue_number hj hrest fuel depth
  | .str s, _, fuel + 1, depth, rest, _, _, _ => by
    have hs := readChars_opened s rest
    change ofChars (readChars opened (putChars s.toList ('"' :: rest))) = _
    rw [hs]
    rfl
  | .arr [], _, 1, _, _, _, _, hfuel => by
    simp only [put, List.length_cons] at hfuel
    omega
  | .arr [], _, fuel + 2, depth, rest, _, hdepth, _ => by
    rw [Json.depth] at hdepth
    exact readValue_arr (by omega) rfl
  | .arr (x :: xs), hj, 1, _, rest, _, _, hfuel => by
    have hx := length_lt_put hj.1 (putItems xs rest)
    rw [put, List.length_cons] at hfuel
    omega
  | .arr (x :: xs), hj, fuel + 2, depth, rest, _, hdepth, hfuel => by
    rw [Json.depth, Json.depthItems] at hdepth
    rw [put, List.length_cons] at hfuel
    have hlength := length_lt_put hj.1 (putItems xs rest)
    have hx := readValue_put hj.1 fuel (depth + 1) (stops_putItems xs rest)
      (by omega) (by omega)
    have hxs := readItems_putItems hj.2 fuel (depth + 1) rest
      (by omega) (by omega)
    -- what starts the first item is no bracket, so the array is not taken for an empty one
    obtain ⟨c, cs, hput, hc⟩ := exists_put hj.1 (putItems xs rest)
    refine readValue_arr (by omega) ?_
    rw [hput] at hx ⊢
    exact readItems_first hc hx hxs
  | .obj [], _, 1, _, _, _, _, hfuel => by
    simp only [put, List.length_cons] at hfuel
    omega
  | .obj [], _, fuel + 2, depth, rest, _, hdepth, _ => by
    rw [Json.depth] at hdepth
    exact readValue_obj (by omega) rfl
  | .obj ((k, x) :: xs), hj, 1, _, rest, _, _, hfuel => by
    have hk := length_lt_putString k (':' :: put x (putMembers xs rest))
    rw [put, List.length_cons] at hfuel
    omega
  | .obj ((k, x) :: xs), hj, fuel + 2, depth, rest, _, hdepth, hfuel => by
    rw [Json.depth, Json.depthMembers] at hdepth
    rw [put, List.length_cons] at hfuel
    have hk := length_lt_putString k (':' :: put x (putMembers xs rest))
    rw [List.length_cons] at hk
    have hlength := length_lt_put hj.1 (putMembers xs rest)
    have hx := readValue_put hj.1 fuel (depth + 1) (stops_putMembers xs rest)
      (by omega) (by omega)
    have hxs := readMembers_putMembers hj.2 fuel (depth + 1) rest
      (by omega) (by omega)
    exact readValue_obj (by omega) (readMembers_first hx hxs)

/-- The items after the first one are read back. -/
theorem readItems_putItems : ∀ {xs : List Json}, LegibleItems xs →
    ∀ (fuel depth : Nat) (rest : List Char), depth + Json.depthItems xs ≤ depthLimit →
    2 * (putItems xs rest).length + 1 ≤ fuel →
    readItems fuel depth false (putItems xs rest) = (documents xs, none, some rest)
  | xs, _, 0, _, _, _, hfuel => by omega
  | [], _, fuel + 1, depth, rest, _, _ => rfl
  | x :: xs, h, fuel + 1, depth, rest, hdepth, hfuel => by
    rw [Json.depthItems] at hdepth
    rw [putItems, List.length_cons] at hfuel
    have hlength := length_lt_put h.1 (putItems xs rest)
    have hx := readValue_put h.1 fuel depth (stops_putItems xs rest)
      (by omega) (by omega)
    have hxs := readItems_putItems h.2 fuel depth rest
      (by omega) (by omega)
    obtain ⟨c, cs, hput, hc⟩ := exists_put h.1 (putItems xs rest)
    rw [putItems]
    rw [hput] at hx ⊢
    exact readItems_next hc hx hxs

/-- The members after the first one are read back. -/
theorem readMembers_putMembers : ∀ {xs : List (String × Json)}, LegibleMembers xs →
    ∀ (fuel depth : Nat) (rest : List Char), depth + Json.depthMembers xs ≤ depthLimit →
    2 * (putMembers xs rest).length + 1 ≤ fuel →
    readMembers fuel depth false (putMembers xs rest) = (memberDocuments xs, none, some rest)
  | xs, _, 0, _, _, _, hfuel => by omega
  | [], _, fuel + 1, depth, rest, _, _ => rfl
  | (k, x) :: xs, h, fuel + 1, depth, rest, hdepth, hfuel => by
    rw [Json.depthMembers] at hdepth
    rw [putMembers, List.length_cons] at hfuel
    have hk := length_lt_putString k (':' :: put x (putMembers xs rest))
    rw [List.length_cons] at hk
    have hlength := length_lt_put h.1 (putMembers xs rest)
    have hx := readValue_put h.1 fuel depth (stops_putMembers xs rest)
      (by omega) (by omega)
    have hxs := readMembers_putMembers h.2 fuel depth rest
      (by omega) (by omega)
    exact readMembers_next hx hxs

end

end Document

namespace Json

/-- A value is read back from its compact text, with the members of its objects sorted. -/
theorem parse_render {j : Json} (h : j.Legible) (hdepth : j.depth ≤ Document.depthLimit) :
    parse j.render = .ok j.sorted := by
  have hread : Document.readValue (2 * (put j []).length + 2) 0 (put j []) =
      (j.document, some []) :=
    Document.readValue_put h _ 0 Document.stops_nil (by omega) (by omega)
  rw [parse, Document.read, render, String.toList_ofList, hread]
  simp only [json_document]
  rfl

/-- An ordered value is read back from its compact text. -/
theorem parse_render_of_ordered {j : Json} (h : j.Legible)
    (hdepth : j.depth ≤ Document.depthLimit) (hordered : j.Ordered) :
    parse j.render = .ok j := by
  rw [parse_render h hdepth, sorted_eq_self j hordered]

end Json

end TopologyHooks
