import Mathlib.Data.Nat.Digits.Lemmas
import TopologyHooks.Calendar.Timestamp
import TopologyHooks.Proofs.Pointwise

/-!
# Points in time are read back

* `Timestamp.Readable` — the points in time in a year that can be read.
* `Timestamp.parse_render` — such a point in time is read from its text. Each step of reading
  takes what was written for one part and leaves the rest.
* `Timestamp.exists_year_of_parse` — what is read from any text lies in the year of the text or in
  one next to it, so that it can be read again unless that year is the first or the last one
  (`Timestamp.readable_of_parse`).
-/

set_option autoImplicit false

namespace TopologyHooks

/-! ## Digits -/

namespace Text

/-- Padded numbers are written with digits alone. -/
theorem isDigit_of_mem_padded {width n : Nat} {c : Char} (h : c ∈ padded width n) :
    c.isDigit = true := by
  rcases List.mem_append.1 h with h | h
  · rw [List.eq_of_mem_replicate h]
    rfl
  · exact Nat.isDigit_of_mem_toDigits (by decide) (by decide) h

/-- A padded number has a digit. -/
theorem padded_ne_nil (width n : Nat) : padded width n ≠ [] := fun h =>
  Nat.toDigits_ne_nil (List.append_eq_nil_iff.1 h).2

/-- The digits of a padded number have its value. -/
theorem ofDigitChars_padded (width n : Nat) : Nat.ofDigitChars 10 (padded width n) 0 = n := by
  rw [padded, Nat.ofDigitChars_append, Nat.ofDigitChars_replicate_zero, Nat.mul_zero,
    Nat.ofDigitChars_toDigits (by decide) (by decide)]

/-- A number that fits is padded to the very width. -/
theorem length_padded {width n : Nat} (hwidth : 0 < width) (hn : n < 10 ^ width) :
    (padded width n).length = width := by
  have hlen : (Nat.toDigits 10 n).length ≤ width :=
    (Nat.length_toDigits_le_iff (by decide) hwidth).2 hn
  rw [padded, List.length_append, List.length_replicate]
  omega

/-- No digit is blank. -/
theorem isBlank_eq_false_of_isDigit {c : Char} (h : c.isDigit = true) : isBlank c = false := by
  have hcode : 48 ≤ c.toNat ∧ c.toNat ≤ 57 := by
    simpa [Char.isDigit, UInt32.le_iff_toNat_le] using h
  simp only [isBlank, blankRanges, List.any_cons, List.any_nil, Bool.or_false, Bool.or_eq_false_iff,
    decide_eq_false_iff_not]
  omega

/-- Nothing is trimmed in front of a character that is not blank. -/
theorem trimFront_cons {c : Char} (h : isBlank c = false) (cs : List Char) :
    trimFront (c :: cs) = c :: cs := by
  rw [trimFront, List.dropWhile_cons_of_neg (by simp [h])]

/-- There are no blanks in front of a padded number. -/
theorem trimFront_padded (width n : Nat) (rest : List Char) :
    trimFront (padded width n ++ rest) = padded width n ++ rest := by
  obtain ⟨c, cs, hcs⟩ := List.exists_cons_of_ne_nil (padded_ne_nil width n)
  have hc : c.isDigit = true := isDigit_of_mem_padded (hcs ▸ List.mem_cons_self)
  rw [hcs, List.cons_append, trimFront_cons (isBlank_eq_false_of_isDigit hc)]

end Text

namespace Timestamp

open Text Calendar

/-- More digits make a number no smaller. -/
theorem le_ofDigitChars (ds : List Char) (n : Nat) : n ≤ Nat.ofDigitChars 10 ds n := by
  induction ds generalizing n with
  | nil => exact Nat.le_refl n
  | cons c ds ih =>
    rw [Nat.ofDigitChars_cons]
    exact Nat.le_trans (by omega) (ih _)

/-- Digits are read up to the end of their number: because there may be no more, or because there
are no more. -/
theorem digits_append {rest : List Char} : ∀ {ds : List Char} {n width : Nat} {seen : Bool},
    (∀ c ∈ ds, c.isDigit = true) → (ds = [] → seen = true) → ds.length ≤ width →
      ds.length = width ∨ (∀ c ∈ rest.head?, c.isDigit = false) →
      Nat.ofDigitChars 10 ds n ≤ maxNumber →
      digits n seen width (ds ++ rest) = .ok (Nat.ofDigitChars 10 ds n, rest)
  | [], n, 0, seen, _, _, _, _, _ => rfl
  | [], n, width + 1, seen, _, hseen, _, hend, _ => by
    obtain rfl := hseen rfl
    cases rest with
    | nil => rfl
    | cons c cs =>
      have hc : c.isDigit = false := hend.resolve_left (by simp) c rfl
      simp [digits, hc]
  | c :: ds, n, 0, seen, _, _, hlen, _, _ => absurd hlen (by simp)
  | c :: ds, n, width + 1, seen, hds, _, hlen, hend, hmax => by
    rw [Nat.ofDigitChars_cons, Nat.mul_comm] at hmax ⊢
    have hstep : ¬ maxNumber < n * 10 + (c.toNat - 48) :=
      Nat.not_lt.2 (Nat.le_trans (le_ofDigitChars ds _) hmax)
    rw [List.cons_append, digits, if_pos (hds c List.mem_cons_self), if_neg hstep]
    exact digits_append (fun d hd => hds d (List.mem_cons_of_mem _ hd)) (fun _ => rfl)
      (Nat.le_of_succ_le_succ hlen) (hend.imp_left Nat.succ.inj) hmax

/-- A padded number is read in full if that is allowed, and what follows it is not read with it. -/
theorem digits_padded {least n width : Nat} {rest : List Char}
    (hlen : (padded least n).length ≤ width)
    (hend : (padded least n).length = width ∨ ∀ c ∈ rest.head?, c.isDigit = false)
    (hmax : n ≤ maxNumber) : digits 0 false width (padded least n ++ rest) = .ok (n, rest) := by
  have hvalue : Nat.ofDigitChars 10 (padded least n) 0 = n := ofDigitChars_padded least n
  rw [digits_append (fun _ hc => isDigit_of_mem_padded hc)
    (fun h => absurd h (padded_ne_nil least n)) hlen hend (hvalue.symm ▸ hmax), hvalue]

/-! ## Parts -/

/-- A number of two digits within its bounds is read back, and nothing of what follows it. -/
theorem number_padded {n low high : Nat} (hlow : low ≤ n) (hhigh : n ≤ high) (hn : n < 100)
    (rest : List Char) : number 2 low high (padded 2 n ++ rest) = .ok (n, rest) := by
  have hlen : (padded 2 n).length = 2 := length_padded (by decide) hn
  have hread : digits 0 false 2 (padded 2 n ++ rest) = .ok (n, rest) :=
    digits_padded hlen.le (.inl hlen) (by unfold maxNumber; omega)
  have hbounds : ¬ (n < low ∨ high < n) := by omega
  rw [number, trimFront_padded, hread]
  exact if_neg hbounds

/-- A mark is read where it stands. -/
theorem mark_cons {c : Char} (h : isBlank c = false) (rest : List Char) :
    mark c (c :: rest) = .ok rest := by
  simp [mark, trimFront_cons h]

/-- The years that fit into a number. -/
theorem year_yearText {y : Int} (hlow : -2147483648 ≤ y) (hhigh : y ≤ 2147483647)
    {rest : List Char} (hrest : ∀ c ∈ rest.head?, c.isDigit = false) :
    year (yearText y ++ rest) = .ok (y, rest) := by
  have hbounds : ¬ (y < -2147483648 ∨ 2147483647 < y) := by omega
  have hmax : y.natAbs ≤ maxNumber := by
    unfold maxNumber
    omega
  by_cases hfour : 0 ≤ y ∧ y ≤ 9999
  · -- four digits, which no sign stands before
    have hlen : (padded 4 y.natAbs).length = 4 := length_padded (by decide) (by omega)
    have hread : digits 0 false 4 (padded 4 y.natAbs ++ rest) = .ok (y.natAbs, rest) :=
      digits_padded hlen.le (.inl hlen) hmax
    have hvalue : (y.natAbs : Int) = y := by omega
    rw [yearText, if_pos hfour, year, trimFront_padded]
    obtain ⟨c, cs, hcs⟩ := List.exists_cons_of_ne_nil (padded_ne_nil 4 y.natAbs)
    have hc : c.isDigit = true := isDigit_of_mem_padded (hcs ▸ List.mem_cons_self)
    rw [hcs, List.cons_append] at hread ⊢
    have hminus : c ≠ '-' := fun he => by simp [he] at hc
    have hplus : c ≠ '+' := fun he => by simp [he] at hc
    split
    · exact absurd (List.cons.inj ‹_›).1 hminus
    · exact absurd (List.cons.inj ‹_›).1 hplus
    · simp only [hread, Except.map, hvalue]
      exact if_neg hbounds
  -- other years have a sign before them, and as many digits as it takes
  · have hread : digits 0 false (padded 4 y.natAbs ++ rest).length.succ
        (padded 4 y.natAbs ++ rest) = .ok (y.natAbs, rest) :=
      digits_padded (by rw [List.length_append]; omega) (.inr hrest) hmax
    rw [yearText, if_neg hfour]
    by_cases hneg : y < 0
    · have hvalue : -(y.natAbs : Int) = y := by omega
      rw [if_pos hneg, year, List.cons_append, trimFront_cons (by decide)]
      simp only [hread, Except.map, hvalue]
      exact if_neg hbounds
    · have hvalue : (y.natAbs : Int) = y := by omega
      rw [if_neg hneg, year, List.cons_append, trimFront_cons (by decide)]
      simp only [hread, Except.map, hvalue]
      exact if_neg hbounds

/-! ## Whole texts -/

/-- A point in time in a year that can be read. -/
def Readable (t : Timestamp) : Prop := -262143 ≤ t.date.year ∧ t.date.year ≤ 262142

instance (t : Timestamp) : Decidable t.Readable := inferInstanceAs (Decidable (_ ∧ _))

/-- A point in time is read from its text. -/
theorem parse_render {t : Timestamp} (h : t.Readable) : parse t.render = .ok t := by
  obtain ⟨⟨y, mo, d, hdate⟩, hour, minute, second, htime⟩ := t
  obtain ⟨hlow, hhigh⟩ : -262143 ≤ y ∧ y ≤ 262142 := h
  obtain ⟨hmonthLow, hmonthHigh, hdayLow, hdayHigh⟩ := hdate
  obtain ⟨hhour, hminute, hsecond⟩ := htime
  have hday : d ≤ 31 := by
    refine Nat.le_trans hdayHigh ?_
    unfold monthLength
    split_ifs <;> omega
  have hseparator (cs : List Char) : separator ('T' :: cs) = .ok cs := rfl
  have hfraction : fraction ['Z'] = .ok ['Z'] := rfl
  have hoffset : offset (trimFront ['Z']) = .ok (0, []) := by decide
  have hyear : ¬ (1440 ≤ (0 : Int).natAbs ∨ y < -262143 ∨ 262142 < y) := by omega
  have hend : ¬ trimFront [] ≠ [] := fun h => h rfl
  rw [parse, render, String.toList_ofList]
  simp only [List.append_assoc, List.cons_append]
  rw [year_yearText (by omega) (by omega) (by simp)]
  simp only [bind, Except.bind, mark_cons (show isBlank '-' = false by decide),
    mark_cons (show isBlank ':' = false by decide), hseparator, hfraction, hoffset,
    number_padded hmonthLow hmonthHigh (by omega), number_padded hdayLow hday (by omega),
    number_padded (Nat.zero_le hour) (Nat.le_of_lt_succ hhour) (by omega),
    number_padded (Nat.zero_le minute) (Nat.le_of_lt_succ hminute) (by omega),
    number_padded (Nat.zero_le second) hsecond (by omega), if_neg hend, if_neg hyear]
  rw [Date.of?, dif_pos ⟨hmonthLow, hmonthHigh, hdayLow, hdayHigh⟩]
  exact dif_pos ⟨hhour, hminute, hsecond⟩

/-! ## Years of texts -/

/-- A date that is made for a year has that year. -/
theorem year_of? {y : Int} {month day : Nat} {date : Date} (h : Date.of? y month day = some date) :
    date.year = y := by
  unfold Date.of? at h
  split_ifs at h
  cases h
  rfl

/-- The day after lies in the same year or in the next one. -/
theorem year_next (d : Date) : d.year ≤ d.next.year ∧ d.next.year ≤ d.year + 1 := by
  unfold Date.next
  split_ifs <;> constructor <;> dsimp only <;> omega

/-- The day before lies in the same year or in the one before. -/
theorem year_previous (d : Date) : d.year - 1 ≤ d.previous.year ∧ d.previous.year ≤ d.year := by
  unfold Date.previous
  split_ifs <;> constructor <;> dsimp only <;> omega

/-- An offset moves a point in time by at most a day. -/
theorem year_ofLocal {date : Date} {hour minute second : Nat} {offset : Int} {t : Timestamp}
    (h : ofLocal date hour minute second offset = .ok t) :
    date.year - 1 ≤ t.date.year ∧ t.date.year ≤ date.year + 1 := by
  have hnext := year_next date
  have hprevious := year_previous date
  unfold ofLocal at h
  split_ifs at h
  · cases h
    dsimp only
    omega
  · cases h
    dsimp only [ofMinutes]
    split_ifs <;> omega

/-- What is read from a text lies in the year that the text starts with, or in one next to it. -/
theorem exists_year_of_parse {s : String} {t : Timestamp} (h : parse s = .ok t) :
    ∃ y rest, year s.toList = .ok (y, rest) ∧ y - 1 ≤ t.date.year ∧ t.date.year ≤ y + 1 := by
  simp only [parse, bind_eq_ok_iff] at h
  obtain ⟨⟨y, rest⟩, hyear, _, -, month, -, _, -, day, -, _, -, hour, -, _, -, minute, -, _, -,
    second, -, _, -, offset, -, h⟩ := h
  refine ⟨y, rest, hyear, ?_⟩
  split at h
  · cases h
  split at h
  · cases h
  split at h
  · rename_i date hdate
    have hsame : date.year = y := year_of? hdate
    exact hsame ▸ year_ofLocal h
  · cases h

/-- What is read from a text in a year can be read again, but perhaps for the first year and the
last one. -/
theorem readable_of_parse {s : String} {t : Timestamp} {y : Int} {rest : List Char}
    (h : parse s = .ok t) (hyear : year s.toList = .ok (y, rest)) (hlow : -262143 < y)
    (hhigh : y < 262142) : t.Readable := by
  obtain ⟨y', rest', hyear', hbounds⟩ := exists_year_of_parse h
  obtain rfl : y = y' := (Prod.mk.inj (Except.ok.inj (hyear.symm.trans hyear'))).1
  unfold Readable
  omega

end Timestamp

end TopologyHooks
