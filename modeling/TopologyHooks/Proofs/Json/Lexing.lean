import Mathlib.Data.List.TakeWhile
import TopologyHooks.Json.Printer
import TopologyHooks.Json.Reader
import TopologyHooks.Proofs.Json.Place

/-!
# Words, numbers and strings are read back

* `Document.readChars_putChars` — an escaped string is read as this string.
* `Document.readNumber_append` — a number is read in the same way whatever follows it, as long as
  that could not go on with the number (`Document.Stops`).
* `Number.Legible` — the numbers that are read back (`Number.Legible.text`): all integers, and a double
  if reading its text, which rounds twice, happens to give it back.
-/

set_option autoImplicit false

namespace TopologyHooks

namespace Document

open Json

/-! ## Strings -/

/-- Every character takes at least one byte, so that as many characters as are still missing are
enough. -/
theorem cutShort_eq_false {seen : Nat} {cs : List Char} (h : 4 ≤ seen + (cs.take 4).length) :
    cutShort seen cs = false := by
  have hsizes : ∀ (cs : List Char) (n : Nat),
      n + cs.length ≤ cs.foldl (fun n c => n + c.utf8Size) n := by
    intro cs
    induction cs with
    | nil => exact fun n => Nat.le_refl n
    | cons c cs ih =>
      intro n
      have hpos := c.utf8Size_pos
      have hrest := ih (n + c.utf8Size)
      rw [List.foldl_cons, List.length_cons]
      omega
  have := hsizes (cs.take 4) seen
  rw [cutShort, decide_eq_false_iff_not]
  omega

/-- A hexadecimal digit that was written is read back as its value. -/
theorem hexValue?_hexDigit : ∀ n < 16, hexValue? (hexDigit n) = some n := by decide

/-- A hexadecimal digit that is not the last one adds to the value. -/
theorem readChars_hexDigit {n : Nat} (hn : n < 16) {left value : Nat} {before rest : List Char}
    (hleft : left ≠ 1) (hlong : left ≤ rest.length + 1) (hfour : left ≤ 4) :
    readChars ⟨.hex none left value, before, none⟩ (hexDigit n :: rest) =
      readChars ⟨.hex none (left - 1) (value * 16 + n), before, none⟩ rest := by
  have hcut : cutShort (4 - left) (hexDigit n :: rest) = false := by
    refine cutShort_eq_false ?_
    rw [List.length_take, List.length_cons]
    omega
  rw [readChars]
  simp [step, hcut, hexValue?_hexDigit n hn, hleft]

/-- Four hexadecimal digits stand for a character that is no surrogate. -/
theorem readChars_lastHexDigit {n : Nat} (hn : n < 16) {value : Nat} {before rest : List Char}
    (hvalue : value * 16 + n < 0xD800) :
    readChars ⟨.hex none 1 value, before, none⟩ (hexDigit n :: rest) =
      readChars ⟨.plain, Char.ofNat (value * 16 + n) :: before, none⟩ rest := by
  have hcut : cutShort (4 - 1) (hexDigit n :: rest) = false := by
    refine cutShort_eq_false ?_
    rw [List.length_take, List.length_cons]
    omega
  have hlow : ¬ (0xDC00 ≤ value * 16 + n ∧ value * 16 + n ≤ 0xDFFF) := by omega
  have hhigh : ¬ (0xD800 ≤ value * 16 + n ∧ value * 16 + n ≤ 0xDBFF) := by omega
  rw [readChars]
  simp only [step, hcut, hexValue?_hexDigit n hn, unitStep, if_neg hlow, if_neg hhigh]
  rfl

/-- A control character, escaped by its number, is read as this character. -/
theorem readChars_unicode {c : Char} (hc : c.toNat < 0x20) (before rest : List Char) :
    readChars ⟨.plain, before, none⟩
      ('\\' :: 'u' :: '0' :: '0' :: hexDigit (c.toNat / 16) :: hexDigit (c.toNat % 16) :: rest) =
      readChars ⟨.plain, c :: before, none⟩ rest := by
  have hzero : '0' = hexDigit 0 := rfl
  have hvalue : ((0 * 16 + 0) * 16 + 0) * 16 + c.toNat / 16 = c.toNat / 16 := by omega
  have hnumber : c.toNat / 16 * 16 + c.toNat % 16 = c.toNat := by omega
  change readChars ⟨.hex none 4 0, before, none⟩ _ = _
  rw [hzero, readChars_hexDigit (by decide) (by decide) (by simp) (by decide),
    readChars_hexDigit (by decide) (by decide) (by simp) (by decide),
    readChars_hexDigit (by omega) (by decide) (by simp) (by decide), hvalue,
    readChars_lastHexDigit (by omega) (by omega), hnumber, Char.ofNat_toNat]

/-- Between characters, an escaped character is read as this character. -/
theorem readChars_escapeChar (c : Char) (before rest : List Char) :
    readChars ⟨.plain, before, none⟩ (escapeChar c ++ rest) =
      readChars ⟨.plain, c :: before, none⟩ rest := by
  rw [escapeChar]
  split_ifs with h1 h2 h3 h4 h5 h6 h7 h8
  · subst h1
    rfl
  · subst h2
    rfl
  · subst h3
    rfl
  · subst h4
    rfl
  · subst h5
    rfl
  · subst h6
    rfl
  · subst h7
    rfl
  · exact readChars_unicode h8 before rest
  · rw [List.singleton_append, readChars]
    simp only [step, plainStep, if_neg h1, if_neg h2, if_neg h8]

/-- An escaped string is read as this string. -/
theorem readChars_putChars (cs before rest : List Char) :
    readChars ⟨.plain, before, none⟩ (putChars cs ('"' :: rest)) =
      .whole (String.ofList (before.reverse ++ cs)) rest := by
  induction cs generalizing before with
  | nil =>
    rw [List.append_nil]
    rfl
  | cons c cs ih =>
    rw [putChars, readChars_escapeChar, ih, List.reverse_cons, List.append_assoc]
    rfl

/-- A string is read back. -/
theorem readChars_opened (s : String) (rest : List Char) :
    readChars opened (putChars s.toList ('"' :: rest)) = .whole s rest := by
  rw [opened, readChars_putChars, List.reverse_nil, List.nil_append, String.ofList_toList]

/-! ## Numbers -/

/-- A text does not go on with a number that stands before it. -/
def Stops (rest : List Char) : Prop :=
  ∀ c ∈ rest.head?, c.isDigit = false ∧ c ≠ '.' ∧ c ≠ 'e' ∧ c ≠ 'E'

/-- No number goes on at the end of a text. -/
theorem stops_nil : Stops [] := fun _ h => nomatch h

/-- No number goes on with a character that is no digit, point or mark of an exponent. -/
theorem stops_cons {c : Char} {rest : List Char}
    (h : c.isDigit = false ∧ c ≠ '.' ∧ c ≠ 'e' ∧ c ≠ 'E') : Stops (c :: rest) := by
  intro d hd
  cases hd
  exact h

section

variable {rest : List Char}

/-- The digits at the front of a text, and the text after them. -/
theorem digits_append (h : Stops rest) (cs : List Char) :
    (cs ++ rest).takeWhile Char.isDigit = cs.takeWhile Char.isDigit ∧
      (cs ++ rest).dropWhile Char.isDigit = cs.dropWhile Char.isDigit ++ rest := by
  induction cs with
  | nil =>
    cases rest with
    | nil => exact ⟨rfl, rfl⟩
    | cons c cs =>
      simp [(h c rfl).1]
  | cons c cs ih =>
    by_cases hc : c.isDigit = true
    · simp [hc, ih.1, ih.2]
    · simp [hc]

/-- An exponent after its sign. -/
def readUnsigned (negative : Bool) (whole fraction : List Char) (down : Bool) :
    List Char → Reading
  | [] => cutNumber
  | c :: cs =>
    if c.isDigit then
      (ofExponent negative whole fraction down ((c :: cs).takeWhile Char.isDigit),
        some ((c :: cs).dropWhile Char.isDigit))
    else stopNumber .invalidNumber

/-- A plus in front of an exponent changes nothing. -/
theorem readExponent_plus (negative : Bool) (whole fraction cs : List Char) :
    readExponent negative whole fraction ('+' :: cs) =
      readUnsigned negative whole fraction false cs := by
  cases cs <;> rfl

/-- Behind a minus the exponent counts downwards. -/
theorem readExponent_minus (negative : Bool) (whole fraction cs : List Char) :
    readExponent negative whole fraction ('-' :: cs) =
      readUnsigned negative whole fraction true cs := by
  cases cs <;> rfl

/-- An exponent without a sign counts upwards. -/
theorem readExponent_of_ne {negative : Bool} {whole fraction cs : List Char} {c : Char}
    (hplus : c ≠ '+') (hminus : c ≠ '-') :
    readExponent negative whole fraction (c :: cs) =
      readUnsigned negative whole fraction false (c :: cs) := by
  unfold readExponent
  split
  next heq =>
    split at heq
    · exact absurd (List.cons.inj ‹_›).1 hplus
    · exact absurd (List.cons.inj ‹_›).1 hminus
    · cases heq
      rfl

/-- The digits of an exponent are read in the same way if a text follows that does not go on with
the number. -/
theorem readUnsigned_append (h : Stops rest) {negative down : Bool}
    {whole fraction cs r : List Char} {d : Document}
    (hcs : readUnsigned negative whole fraction down cs = (d, some r)) :
    readUnsigned negative whole fraction down (cs ++ rest) = (d, some (r ++ rest)) := by
  cases cs with
  | nil => cases hcs
  | cons c cs =>
    obtain ⟨htake, hdrop⟩ := digits_append h (c :: cs)
    rw [List.cons_append] at htake hdrop ⊢
    rw [readUnsigned] at hcs ⊢
    split_ifs at hcs ⊢ with hc
    · rw [htake, hdrop]
      cases hcs
      rfl
    · cases hcs

/-- An exponent is read in the same way if a text follows that does not go on with the number. -/
theorem readExponent_append (h : Stops rest) {negative : Bool} {whole fraction cs r : List Char}
    {d : Document} (hcs : readExponent negative whole fraction cs = (d, some r)) :
    readExponent negative whole fraction (cs ++ rest) = (d, some (r ++ rest)) := by
  cases cs with
  | nil => cases hcs
  | cons c cs =>
    rw [List.cons_append]
    by_cases hplus : c = '+'
    · subst hplus
      rw [readExponent_plus] at hcs ⊢
      exact readUnsigned_append h hcs
    · by_cases hminus : c = '-'
      · subst hminus
        rw [readExponent_minus] at hcs ⊢
        exact readUnsigned_append h hcs
      · rw [readExponent_of_ne hplus hminus] at hcs ⊢
        exact readUnsigned_append h hcs

/-- A number after the digits of its fraction. -/
def readAfterFraction (negative : Bool) (whole fraction : List Char) : List Char → Reading
  | 'e' :: cs => readExponent negative whole fraction cs
  | 'E' :: cs => readExponent negative whole fraction cs
  | cs => (ofParts negative whole fraction 0, some cs)

/-- Without an exponent, a number ends behind its fraction. -/
theorem readAfterFraction_of_ne {negative : Bool} {whole fraction cs : List Char}
    (hcs : ∀ c ∈ cs.head?, c ≠ 'e' ∧ c ≠ 'E') :
    readAfterFraction negative whole fraction cs =
      (ofParts negative whole fraction 0, some cs) := by
  unfold readAfterFraction
  split
  · exact absurd rfl (hcs _ rfl).1
  · exact absurd rfl (hcs _ rfl).2
  · rfl

/-- What follows a fraction is read in the same way if a text follows that does not go on with the
number. -/
theorem readAfterFraction_append (h : Stops rest) {negative : Bool}
    {whole fraction cs r : List Char} {d : Document}
    (hcs : readAfterFraction negative whole fraction cs = (d, some r)) :
    readAfterFraction negative whole fraction (cs ++ rest) = (d, some (r ++ rest)) := by
  unfold readAfterFraction at hcs
  split at hcs
  · exact readExponent_append h hcs
  · exact readExponent_append h hcs
  · next hlower hupper =>
    rw [readAfterFraction_of_ne]
    · cases hcs
      rfl
    · cases cs with
      | nil => exact fun c hc => (h c hc).2.2
      | cons c cs =>
        intro d hd
        cases hd
        exact ⟨fun e => hlower cs (e ▸ rfl), fun e => hupper cs (e ▸ rfl)⟩

/-- A point asks for digits; without any, the number is cut short or invalid. -/
theorem readAfterWhole_point {negative : Bool} {whole cs : List Char} :
    readAfterWhole negative whole ('.' :: cs) =
      if cs.takeWhile Char.isDigit = [] then
        if cs = [] then cutNumber else stopNumber .invalidNumber
      else
        readAfterFraction negative whole (cs.takeWhile Char.isDigit)
          (cs.dropWhile Char.isDigit) := by
  have happend := List.takeWhile_append_dropWhile (p := Char.isDigit) (l := cs)
  rw [readAfterWhole]
  cases hfraction : cs.takeWhile Char.isDigit with
  | nil =>
    rw [hfraction, List.nil_append] at happend
    rw [happend]
    cases cs <;> rfl
  | cons c ds =>
    rw [if_neg (List.cons_ne_nil c ds)]
    unfold readAfterFraction
    split <;> simp_all

/-- Without a point and an exponent, a number is whole. -/
theorem readAfterWhole_of_ne {negative : Bool} {whole cs : List Char}
    (hcs : ∀ c ∈ cs.head?, c ≠ '.' ∧ c ≠ 'e' ∧ c ≠ 'E') :
    readAfterWhole negative whole cs = (ofWhole negative whole, some cs) := by
  unfold readAfterWhole
  split
  · exact absurd rfl (hcs _ rfl).1
  · exact absurd rfl (hcs _ rfl).2.1
  · exact absurd rfl (hcs _ rfl).2.2
  · rfl

/-- What follows the whole part is read in the same way if a text follows that does not go on with
the number. -/
theorem readAfterWhole_append (h : Stops rest) {negative : Bool} {whole cs r : List Char}
    {d : Document} (hcs : readAfterWhole negative whole cs = (d, some r)) :
    readAfterWhole negative whole (cs ++ rest) = (d, some (r ++ rest)) := by
  by_cases hpoint : ∃ ds, cs = '.' :: ds
  · obtain ⟨ds, rfl⟩ := hpoint
    obtain ⟨htake, hdrop⟩ := digits_append h ds
    rw [readAfterWhole_point] at hcs
    rw [List.cons_append, readAfterWhole_point, htake, hdrop]
    split_ifs at hcs ⊢
    · exact nomatch hcs
    · exact nomatch hcs
    · exact nomatch hcs
    · exact nomatch hcs
    · exact readAfterFraction_append h hcs
  · unfold readAfterWhole at hcs
    split at hcs
    · exact absurd ⟨_, rfl⟩ hpoint
    · exact readExponent_append h hcs
    · exact readExponent_append h hcs
    · next hp hlower hupper =>
      rw [readAfterWhole_of_ne]
      · cases hcs
        rfl
      · cases cs with
        | nil => exact fun c hc => (h c hc).2
        | cons c cs =>
          intro d hd
          cases hd
          exact ⟨fun e => hp cs (e ▸ rfl), fun e => hlower cs (e ▸ rfl),
            fun e => hupper cs (e ▸ rfl)⟩

/-- A zero before the point stands alone. -/
theorem readNumber_zero (negative : Bool) {cs : List Char}
    (h : ∀ c ∈ cs.head?, c.isDigit = false) :
    readNumber negative ('0' :: cs) = readAfterWhole negative ['0'] cs := by
  cases cs with
  | nil => rfl
  | cons c cs =>
    have hc : c.isDigit = false := h c rfl
    simp [readNumber, hc]

/-- A number that starts with a zero and is read has no digit behind the zero. -/
theorem isDigit_head?_of_readNumber_zero {negative : Bool} {cs r : List Char} {d : Document}
    (h : readNumber negative ('0' :: cs) = (d, some r)) : ∀ c ∈ cs.head?, c.isDigit = false := by
  cases cs with
  | nil => exact fun _ hc => nomatch hc
  | cons c cs =>
    intro e he
    cases he
    by_contra hdigit
    rw [Bool.not_eq_false] at hdigit
    simp [readNumber, hdigit, stopNumber] at h

/-- A number that does not start with a zero starts with any other digits. -/
theorem readNumber_of_ne {negative : Bool} {c : Char} (hc : c ≠ '0') (cs : List Char) :
    readNumber negative (c :: cs) =
      if c.isDigit then
        readAfterWhole negative (c :: cs.takeWhile Char.isDigit) (cs.dropWhile Char.isDigit)
      else stopNumber .invalidNumber := by
  unfold readNumber
  split
  · next heq => cases heq
  · next heq => exact absurd (List.cons.inj heq).1 hc
  · next heq =>
    obtain ⟨rfl, rfl⟩ := List.cons.inj heq
    rfl

/-- A number is read in the same way before a text that does not go on with it. -/
theorem readNumber_append (h : Stops rest) {negative : Bool} {cs r : List Char} {d : Document}
    (hcs : readNumber negative cs = (d, some r)) :
    readNumber negative (cs ++ rest) = (d, some (r ++ rest)) := by
  cases cs with
  | nil => exact nomatch hcs
  | cons c cs =>
    by_cases hc : c = '0'
    · subst hc
      have hhead := isDigit_head?_of_readNumber_zero hcs
      have hboth : ∀ c ∈ (cs ++ rest).head?, c.isDigit = false := by
        cases cs with
        | nil => exact fun c hc => (h c hc).1
        | cons c cs => exact hhead
      rw [readNumber_zero negative hhead] at hcs
      rw [List.cons_append, readNumber_zero negative hboth]
      exact readAfterWhole_append h hcs
    · obtain ⟨htake, hdrop⟩ := digits_append h cs
      rw [readNumber_of_ne hc] at hcs
      rw [List.cons_append, readNumber_of_ne hc, htake, hdrop]
      split_ifs at hcs ⊢
      · exact readAfterWhole_append h hcs
      · exact nomatch hcs

end

/-- A number begins with a digit after its sign. -/
theorem exists_digit_of_readNumber {negative : Bool} {cs r : List Char} {d : Document}
    (h : readNumber negative cs = (d, some r)) :
    ∃ c more, cs = c :: more ∧ c.isDigit = true := by
  cases cs with
  | nil => exact nomatch h
  | cons c cs =>
    by_cases hc : c = '0'
    · exact ⟨c, cs, rfl, hc ▸ rfl⟩
    · rw [readNumber_of_ne hc] at h
      split_ifs at h with hdigit
      · exact ⟨c, cs, rfl, hdigit⟩
      · exact nomatch h

/-! ## Integers -/

/-- Reading more digits does not make a value smaller. -/
theorem le_digitsFrom (cs : List Char) (s : Nat) :
    s ≤ cs.foldl (fun n c => n * 10 + digit c) s := by
  induction cs generalizing s with
  | nil => exact Nat.le_refl s
  | cons c cs ih =>
    have := ih (s * 10 + digit c)
    rw [List.foldl_cons]
    omega

/-- Digits whose value fits are all taken. -/
theorem takeWhole_eq {cs : List Char} {s : Nat}
    (h : cs.foldl (fun n c => n * 10 + digit c) s ≤ maxSignificand) :
    takeWhole s cs = (cs.foldl (fun n c => n * 10 + digit c) s, 0) := by
  induction cs generalizing s with
  | nil => rfl
  | cons c cs ih =>
    rw [List.foldl_cons] at h ⊢
    have hle := le_digitsFrom cs (s * 10 + digit c)
    rw [takeWhole, if_neg (by omega), ih h]

/-- The digits of a number have its value. -/
theorem digitsValue_toDigits (n : Nat) : digitsValue (Nat.toDigits 10 n) = n := by
  have h := Nat.ofDigitChars_toDigits (b := 10) (n := n) (by decide) (by decide)
  rw [Nat.ofDigitChars_eq_foldl] at h
  simpa [digitsValue, digit, Nat.mul_comm] using h

/-- The digits of a small number are all taken, and none of them is dropped. -/
theorem takeWhole_toDigits {n : Nat} (h : n ≤ maxSignificand) :
    takeWhole 0 (Nat.toDigits 10 n) = (n, 0) := by
  have hvalue : (Nat.toDigits 10 n).foldl (fun n c => n * 10 + digit c) 0 = n :=
    digitsValue_toDigits n
  rw [takeWhole_eq (by rw [hvalue]; exact h), hvalue]

/-- The digits of a natural number are read as a number without point and exponent. -/
theorem readNumber_toDigits (negative : Bool) (n : Nat) :
    readNumber negative (Nat.toDigits 10 n) =
      (ofWhole negative (Nat.toDigits 10 n), some []) := by
  have hdigits : ∀ c ∈ Nat.toDigits 10 n, c.isDigit = true := fun c hc =>
    Nat.isDigit_of_mem_toDigits (by decide) (by decide) hc
  cases htext : Nat.toDigits 10 n with
  | nil => exact absurd htext Nat.toDigits_ne_nil
  | cons c cs =>
    rw [htext] at hdigits
    obtain ⟨hc, hcs⟩ := List.forall_mem_cons.1 hdigits
    by_cases hzero : c = '0'
    · subst hzero
      have hn : n = 0 := by
        by_contra hn
        exact Pointer.head_toDigits_ne_zero n hn cs htext
      subst hn
      cases htext
      rfl
    · rw [readNumber_of_ne hzero, if_pos hc, List.takeWhile_eq_self_iff.2 hcs,
        List.dropWhile_eq_nil_iff.2 hcs]
      rfl

end Document

/-- A number that its text gives back. All integers do; a double does if reading it, which rounds
twice, leads to the double it was written for. -/
def Number.Legible : Number → Prop
  | .int _ _ => True
  | .double d =>
    Document.readNumber d.negative (Layout.plain.write d.shortest) = (.num (.double d), some [])

/-- The text of an exact number is a sign and what the number is read from. -/
theorem Number.Legible.text {n : Number} (h : n.Legible) :
    ∃ negative size, Json.numberText n = (if negative then '-' :: size else size) ∧
      Document.readNumber negative size = (.num n, some []) := by
  cases n with
  | double d => exact ⟨d.negative, _, rfl, h⟩
  | int n hn =>
    refine ⟨decide (n < 0), Nat.toDigits 10 n.natAbs, ?_, ?_⟩
    · simp [Json.numberText, Json.intText]
    · have hfits : n.natAbs ≤ Document.maxSignificand := by
        rw [Document.maxSignificand]
        omega
      rw [Document.readNumber_toDigits, Document.ofWhole, Document.takeWhole_toDigits hfits]
      by_cases hneg : n < 0
      · have hlow : 0 < n.natAbs ∧ n.natAbs ≤ 9223372036854775808 := by omega
        have hback : -(n.natAbs : Int) = n := by omega
        simp only [hneg, decide_true, if_true, dif_pos hlow, hback]
      · have hhigh : n.natAbs < 18446744073709551616 := by omega
        have hback : (n.natAbs : Int) = n := by omega
        simp only [hneg, decide_false, Bool.false_eq_true, if_false, dif_pos hhigh, hback]

end TopologyHooks
