/-
Whole numbers in decimal digits. The digits of a number are ASCII digits, the first
of them is not zero unless the number is, and reading them gives the number back.
-/
import Std.Data.String.ToNat
import Retag.Text.Ranges

namespace Retag

theorem isAsciiDigit_eq (c : Char) : Text.isAsciiDigit c = c.isDigit := by
  simp only [Text.isAsciiDigit, Char.isDigit, Char.le_def, ge_iff_le]

theorem digits_toList (n : Nat) : (toString n).toList = Nat.toDigits 10 n := by
  rw [Nat.toString_eq_ofList_toDigits, String.toList_ofList]

theorem digits_isAsciiDigit {n : Nat} {c : Char} (h : c ∈ (toString n).toList) : Text.isAsciiDigit c = true := by
  rw [digits_toList] at h
  rw [isAsciiDigit_eq]
  exact Nat.isDigit_of_mem_toDigits (by decide) (by decide) h

/-- Numbers but zero begin with another digit. -/
theorem digits_head {n : Nat} (h : n ≠ 0) : ∃ c cs, (toString n).toList = c :: cs ∧ c ≠ '0' := by
  rw [digits_toList]
  induction n using Nat.strongRecOn with
  | ind n ih =>
    rw [Nat.toDigits_eq_if (by decide)]
    split
    next hlt =>
      refine ⟨n.digitChar, [], rfl, ?_⟩
      have : ∀ n < 10, n ≠ 0 → n.digitChar ≠ '0' := by decide
      exact this n hlt h
    next hlt =>
      obtain ⟨c, cs, heq, hc⟩ := ih (n / 10) (by omega) (by omega)
      exact ⟨c, _, by rw [heq]; rfl, hc⟩

/-- Every further digit makes the number larger. -/
theorem le_ofDigitChars (cs : List Char) (n : Nat) : n ≤ Nat.ofDigitChars 10 cs n := by
  induction cs generalizing n with
  | nil => exact Nat.le_refl n
  | cons c cs ih =>
    rw [Nat.ofDigitChars_cons]
    exact Nat.le_trans (by omega) (ih _)

end Retag
