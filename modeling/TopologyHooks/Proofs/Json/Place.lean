import Mathlib.Tactic.IntervalCases
import TopologyHooks.Patch.Diff
import TopologyHooks.Patch.Apply
import TopologyHooks.Proofs.Json.Ordered

/-!
# Places in values

* `Pointer.index?_toString` — the token of an index leads back to it.
* `Json.within?_within?` — changing the value under a token twice is changing it once, by both
  changes one after the other.
-/

set_option autoImplicit false

namespace TopologyHooks

/-! ## Tokens of indices -/

namespace Pointer

/-- The digits of a positive number do not start with a zero. -/
theorem head_toDigits_ne_zero (n : Nat) (hn : n ≠ 0) (cs : List Char) :
    Nat.toDigits 10 n ≠ '0' :: cs := by
  induction n using Nat.strongRecOn generalizing cs with
  | ind n ih =>
    by_cases hlt : n < 10
    · rw [Nat.toDigits_of_lt_base hlt]
      intro h
      have : n.digitChar = '0' := (List.cons.inj h).1
      interval_cases n <;> simp_all [Nat.digitChar]
    · rw [Nat.toDigits_of_base_le (by decide) (by omega)]
      intro h
      rcases hd : Nat.toDigits 10 (n / 10) with _ | ⟨c, ds⟩
      · exact Nat.toDigits_ne_nil hd
      · rw [hd, List.cons_append, List.cons.injEq] at h
        obtain ⟨rfl, -⟩ := h
        exact ih (n / 10) (by omega) (by omega) ds hd

/-- The token of an index leads back to the index. -/
theorem index?_toString (n : Nat) : index? (toString n) = some n := by
  have hl : (toString n).toList = Nat.toDigits 10 n := by
    rw [Nat.toString_eq_ofList_toDigits, String.toList_ofList]
  have hall : (Nat.toDigits 10 n).all Char.isDigit = true :=
    List.all_eq_true.2 fun c hc => Nat.isDigit_of_mem_toDigits (by decide) (by decide) hc
  have hfold : (Nat.toDigits 10 n).foldl (fun m c => m * 10 + (c.toNat - 48)) 0 = n := by
    have h := Nat.ofDigitChars_toDigits (b := 10) (n := n) (by decide) (by decide)
    rw [Nat.ofDigitChars_eq_foldl] at h
    simpa [Nat.mul_comm] using h
  rw [index?, hl]
  by_cases hn : n = 0
  · subst hn
    rfl
  · have hz : ∀ cs, Nat.toDigits 10 n ≠ '0' :: cs := head_toDigits_ne_zero n hn
    split
    · exact absurd ‹_› Nat.toDigits_ne_nil
    · exact absurd ‹_› (hz _)
    · exact absurd ‹_› (hz _)
    · rw [if_pos hall, hfold]

end Pointer

namespace Json

/-! ## Changes under a token -/

/-- Changing what stands under a token twice is changing it once, by one change after the other. -/
theorem within?_within? (t : String) (f g : Json → Option Json) (j : Json) :
    (within? t f j).bind (within? t g) = within? t (fun c => (f c).bind g) j := by
  cases j with
  | obj members =>
    cases hc : Assoc.get? t members with
    | none => simp [within?, hc]
    | some c =>
      cases hf : f c with
      | none => simp [within?, hc, hf]
      | some n => simp [within?, hc, hf, Assoc.get?_insert, Assoc.insert_insert]
  | arr items =>
    cases hi : Pointer.index? t with
    | none => simp [within?, hi]
    | some i =>
      cases hc : items[i]? with
      | none => simp [within?, hi, hc]
      | some c =>
        obtain ⟨hlt, rfl⟩ := List.getElem?_eq_some_iff.1 hc
        cases hf : f items[i] with
        | none => simp [within?, hi, hlt, hf]
        | some n => simp [within?, hi, hlt, hf]
  | _ => rfl

end Json

end TopologyHooks
