import TopologyHooks.Encoding.Base64

/-!
# Bytes survive base 64

Main statement: the text of bytes stands for these bytes (`Base64.decode_encode`).

The text is read in groups of four symbols. All groups but the last one are full; the last one may
end in padding. So the induction goes along the groups of three bytes that `Base64.encode` takes
off, and a group without a successor is read by `Base64.ending`.
-/

set_option autoImplicit false

namespace TopologyHooks

namespace Base64

/-! ## Symbols -/

/-- The byte of a symbol in a text. -/
def byte (c : Char) : UInt8 := UInt8.ofNat c.toNat

/-- Symbols are among the first 128 characters, are no padding, and stand for their six bits. -/
theorem symbol_spec : ∀ n < 64,
    (symbol n).toNat < 128 ∧ (byte (symbol n)).toNat ≠ pad ∧
      value? (byte (symbol n)).toNat = some n := by
  decide

/-- All symbols are ASCII characters. -/
theorem toNat_symbol_lt {n : Nat} (h : n < 64) : (symbol n).toNat < 128 := (symbol_spec n h).1

/-- A symbol is read as the six bits that it is written for. -/
theorem sixBits_symbol {n : Nat} (h : n < 64) (offset : Nat) :
    sixBits offset (byte (symbol n)) = .ok n := by
  rw [sixBits, (symbol_spec n h).2.2]

/-- The bytes of a text of the first 128 characters. -/
theorem toUTF8_ofList {cs : List Char} (h : ∀ c ∈ cs, c.toNat < 128) :
    (String.ofList cs).toUTF8.data.toList = cs.map byte := by
  have hchars : cs.flatMap String.utf8EncodeChar = cs.map byte := by
    induction cs with
    | nil => rfl
    | cons c cs ih =>
      obtain ⟨hc, hcs⟩ := List.forall_mem_cons.1 h
      have hsize : c.utf8Size = 1 := by
        rw [Char.utf8Size_eq_one_iff, UInt32.le_iff_toNat_le]
        exact Nat.lt_succ_iff.1 hc
      rw [List.flatMap_cons, String.utf8EncodeChar_eq_singleton hsize, ih hcs]
      rfl
  have hbytes : (String.ofList cs).toUTF8 = (cs.flatMap String.utf8EncodeChar).toByteArray :=
    String.toByteArray_ofList
  rw [hbytes, hchars]
  simp

/-! ## The six bits of bytes -/

/-- The six bits at the front of a byte. -/
theorem front_lt (a : UInt8) : a.toNat / 4 < 64 := by
  have := a.toNat_lt
  omega

/-- The bits left of a byte, followed by bits of the next one. -/
theorem middle_lt (a b : UInt8) : a.toNat % 4 * 16 + b.toNat / 16 < 64 := by
  have := b.toNat_lt
  omega

/-- The six bits that end in the second byte and begin in the third. -/
theorem back_lt (b c : UInt8) : b.toNat % 16 * 4 + c.toNat / 64 < 64 := by
  have := c.toNat_lt
  omega

/-- What is encoded is written with ASCII characters. -/
theorem toNat_lt_of_mem_encode (bs : List UInt8) : ∀ c ∈ encode bs, c.toNat < 128 := by
  have hpad : ('=' : Char).toNat < 128 := by decide
  induction bs using encode.induct with
  | case1 => exact fun c hc => absurd hc List.not_mem_nil
  | case2 a =>
    intro c hc
    simp only [encode, List.mem_cons, List.not_mem_nil, or_false] at hc
    rcases hc with rfl | rfl | rfl | rfl
    · exact toNat_symbol_lt (front_lt a)
    · exact toNat_symbol_lt (by omega)
    · exact hpad
    · exact hpad
  | case3 a b =>
    intro c hc
    simp only [encode, List.mem_cons, List.not_mem_nil, or_false] at hc
    rcases hc with rfl | rfl | rfl | rfl
    · exact toNat_symbol_lt (front_lt a)
    · exact toNat_symbol_lt (middle_lt a b)
    · exact toNat_symbol_lt (by omega)
    · exact hpad
  | case4 x y z rest ih =>
    intro c hc
    simp only [encode, List.mem_cons] at hc
    rcases hc with rfl | rfl | rfl | rfl | hc
    · exact toNat_symbol_lt (front_lt x)
    · exact toNat_symbol_lt (middle_lt x y)
    · exact toNat_symbol_lt (back_lt y z)
    · exact toNat_symbol_lt (Nat.mod_lt _ (by decide))
    · exact ih c hc

/-- What is encoded comes in groups of four characters. -/
theorem length_encode_mod (bs : List UInt8) : (encode bs).length % 4 = 0 := by
  induction bs using encode.induct with
  | case1 => rfl
  | case2 => simp [encode]
  | case3 => simp [encode]
  | case4 x y z rest ih =>
    simp only [encode, List.length_cons]
    omega

/-- Only nothing is encoded as nothing. -/
theorem encode_eq_nil {bs : List UInt8} : encode bs = [] ↔ bs = [] := by
  cases bs using encode.fun_cases <;> simp [encode]

/-! ## Groups -/

/-- A symbol adds its six bits to those of the rest of the group. -/
theorem lastGroup_symbol {n : Nat} (h : n < 64) {offset index paddings : Nat}
    {rest : List UInt8} {vs : List Nat}
    (hrest : lastGroup offset (index + 1) rest = .ok (vs, paddings)) :
    lastGroup offset index (byte (symbol n) :: rest) = .ok (n :: vs, paddings) := by
  rw [lastGroup, if_neg (symbol_spec n h).2.1, sixBits_symbol h, hrest]
  rfl

/-- After two symbols a group may end in a padding. -/
theorem lastGroup_pad (offset : Nat) :
    lastGroup offset 3 [byte '='] = .ok ([], 1) := rfl

/-- After two symbols a group may end in two paddings. -/
theorem lastGroup_pads (offset : Nat) :
    lastGroup offset 2 [byte '=', byte '='] = .ok ([], 2) := rfl

/-- The first byte of a group. -/
theorem ofNat_front (a : UInt8) {r : Nat} (h : r < 16) :
    UInt8.ofNat (a.toNat / 4 * 4 + (a.toNat % 4 * 16 + r) / 16) = a := by
  have : a.toNat / 4 * 4 + (a.toNat % 4 * 16 + r) / 16 = a.toNat := by omega
  rw [this, UInt8.ofNat_toNat]

/-- The second byte of a group. -/
theorem ofNat_middle (q : Nat) (b : UInt8) {r : Nat} (h : r < 4) :
    UInt8.ofNat ((q * 16 + b.toNat / 16) % 16 * 16 + (b.toNat % 16 * 4 + r) / 4) = b := by
  have hb := b.toNat_lt
  have : (q * 16 + b.toNat / 16) % 16 * 16 + (b.toNat % 16 * 4 + r) / 4 = b.toNat := by omega
  rw [this, UInt8.ofNat_toNat]

/-- The third byte of a group. -/
theorem ofNat_back (q : Nat) (c : UInt8) :
    UInt8.ofNat ((q * 4 + c.toNat / 64) % 4 * 64 + c.toNat % 64) = c := by
  have hc := c.toNat_lt
  have : (q * 4 + c.toNat / 64) % 4 * 64 + c.toNat % 64 = c.toNat := by omega
  rw [this, UInt8.ofNat_toNat]

/-- A group of two symbols stands for one byte. -/
theorem ending_of_two {offset w x : Nat} {group : List UInt8}
    (h : lastGroup offset 0 group = .ok ([w, x], 2)) (hx : x % 16 = 0) :
    ending offset group = .ok [UInt8.ofNat (w * 4 + x / 16)] := by
  simp only [ending, h, hx, bind, Except.bind, List.length_cons, List.length_nil]
  rfl

/-- A group of three symbols stands for two bytes. -/
theorem ending_of_three {offset w x y : Nat} {group : List UInt8}
    (h : lastGroup offset 0 group = .ok ([w, x, y], 1)) (hy : y % 4 = 0) :
    ending offset group =
      .ok [UInt8.ofNat (w * 4 + x / 16), UInt8.ofNat (x % 16 * 16 + y / 4)] := by
  simp only [ending, h, hy, bind, Except.bind, List.length_cons, List.length_nil]
  rfl

/-- A group of four symbols stands for three bytes. -/
theorem ending_of_four {offset w x y z : Nat} {group : List UInt8}
    (h : lastGroup offset 0 group = .ok ([w, x, y, z], 0)) :
    ending offset group =
      .ok [UInt8.ofNat (w * 4 + x / 16), UInt8.ofNat (x % 16 * 16 + y / 4),
        UInt8.ofNat (y % 4 * 64 + z)] := by
  simp only [ending, h, bind, Except.bind, List.length_cons, List.length_nil]
  rw [if_neg (by decide), if_neg (by decide)]
  rfl

/-- The last group of a text, of one byte. -/
theorem ending_one (offset : Nat) (a : UInt8) :
    ending offset ((encode [a]).map byte) = .ok [a] := by
  have hgroup : lastGroup offset 0 ((encode [a]).map byte) =
      .ok ([a.toNat / 4, a.toNat % 4 * 16], 2) :=
    lastGroup_symbol (front_lt a) (lastGroup_symbol (by omega) (lastGroup_pads offset))
  rw [ending_of_two hgroup (by omega)]
  exact congrArg (Except.ok [·]) (ofNat_front a (r := 0) (by decide))

/-- The last group of a text, of two bytes. -/
theorem ending_two (offset : Nat) (a b : UInt8) :
    ending offset ((encode [a, b]).map byte) = .ok [a, b] := by
  have hb := b.toNat_lt
  have hgroup : lastGroup offset 0 ((encode [a, b]).map byte) =
      .ok ([a.toNat / 4, a.toNat % 4 * 16 + b.toNat / 16, b.toNat % 16 * 4], 1) :=
    lastGroup_symbol (front_lt a) (lastGroup_symbol (middle_lt a b)
      (lastGroup_symbol (by omega) (lastGroup_pad offset)))
  have hmiddle := ofNat_middle (a.toNat % 4) b (r := 0) (by decide)
  rw [ending_of_three hgroup (by omega), ofNat_front a (by omega)]
  rw [Nat.add_zero] at hmiddle
  rw [hmiddle]

/-- The last group of a text, of three bytes. -/
theorem ending_three (offset : Nat) (a b c : UInt8) :
    ending offset ((encode [a, b, c]).map byte) = .ok [a, b, c] := by
  have hb := b.toNat_lt
  have hc := c.toNat_lt
  have hgroup : lastGroup offset 0 ((encode [a, b, c]).map byte) =
      .ok ([a.toNat / 4, a.toNat % 4 * 16 + b.toNat / 16,
        b.toNat % 16 * 4 + c.toNat / 64, c.toNat % 64], 0) :=
    lastGroup_symbol (front_lt a) (lastGroup_symbol (middle_lt a b)
      (lastGroup_symbol (back_lt b c) (lastGroup_symbol (Nat.mod_lt _ (by decide)) rfl)))
  rw [ending_of_four hgroup, ofNat_front a (by omega), ofNat_middle _ b (by omega), ofNat_back]

/-- A full group. -/
theorem quad_symbols (offset : Nat) (a b c : UInt8) :
    quad offset (byte (symbol (a.toNat / 4))) (byte (symbol (a.toNat % 4 * 16 + b.toNat / 16)))
      (byte (symbol (b.toNat % 16 * 4 + c.toNat / 64))) (byte (symbol (c.toNat % 64))) =
      .ok [a, b, c] := by
  have hb := b.toNat_lt
  have hc := c.toNat_lt
  rw [quad, sixBits_symbol (front_lt a), sixBits_symbol (middle_lt a b),
    sixBits_symbol (back_lt b c), sixBits_symbol (Nat.mod_lt _ (by decide))]
  have hbytes := And.intro (ofNat_front a (r := b.toNat / 16) (by omega))
    (And.intro (ofNat_middle (a.toNat % 4) b (r := c.toNat / 64) (by omega))
      (ofNat_back (b.toNat % 16) c))
  change Except.ok [_, _, _] = _
  rw [hbytes.1, hbytes.2.1, hbytes.2.2]

/-- The groups of the text of bytes stand for these bytes. -/
theorem groups_encode (offset : Nat) {bs : List UInt8} (h : bs ≠ []) :
    groups offset ((encode bs).map byte) = .ok bs := by
  induction bs using encode.induct generalizing offset with
  | case1 => exact absurd rfl h
  | case2 a => exact ending_one offset a
  | case3 a b => exact ending_two offset a b
  | case4 x y z rest ih =>
    cases hrest : encode rest with
    | nil =>
      rw [encode_eq_nil.1 hrest]
      exact ending_three offset x y z
    | cons c cs =>
      have hne : rest ≠ [] := by
        rintro rfl
        cases hrest
      have hmore := ih (offset + 4) hne
      rw [hrest] at hmore
      rw [encode, hrest]
      simp only [List.map_cons] at hmore ⊢
      rw [groups, quad_symbols, hmore]
      rfl

/-- The text of bytes stands for these bytes. -/
theorem decode_encode (bs : List UInt8) : decode (String.ofList (encode bs)) = .ok bs := by
  rw [decode, toUTF8_ofList (toNat_lt_of_mem_encode bs), decodeBytes]
  have hlength : ((encode bs).map byte).length % 4 ≠ 1 := by
    rw [List.length_map, length_encode_mod]
    decide
  cases hlast : ((encode bs).map byte).getLast? with
  | none =>
    rw [List.getLast?_eq_none_iff, List.map_eq_nil_iff, encode_eq_nil] at hlast
    rw [hlast]
  | some last =>
    have hne : bs ≠ [] := by
      rintro rfl
      cases hlast
    change (if _ then _ else _) = _
    rw [if_neg fun hbad => hlength hbad.1]
    exact groups_encode 0 hne

end Base64

end TopologyHooks
