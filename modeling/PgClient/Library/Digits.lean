import Mathlib.Algebra.GroupWithZero.Nat
import Mathlib.Data.List.Basic

/-!
Numbers by their decimal digits, of which there may have to be so many.
-/

namespace Digits

def padded (width n : Nat) : List Char := (Nat.toDigits 10 n).leftpad width '0'

/-- A number by exactly so many digits. -/
def readNumber (width : Nat) (text : List Char) : Option (Nat × List Char) :=
  if width ≤ text.length ∧ (text.take width).all Char.isDigit then
    some (Nat.ofDigitChars 10 (text.take width) 0, text.drop width)
  else none

theorem padded_digits (width n : Nat) : ∀ c ∈ padded width n, c.isDigit := by
  intro c hMem
  rw [padded, List.leftpad, List.mem_append] at hMem
  cases hMem with
  | inl hZero => rw [List.eq_of_mem_replicate hZero]; rfl
  | inr hDigit => exact Nat.isDigit_of_mem_toDigits (by decide) (by decide) hDigit

theorem ofDigitChars_padded (width n : Nat) : Nat.ofDigitChars 10 (padded width n) 0 = n := by
  rw [padded, List.leftpad, Nat.ofDigitChars_append, Nat.ofDigitChars_replicate_zero, Nat.mul_zero,
    Nat.ofDigitChars_ten_toDigits]

theorem toNat_of_isDigit {c : Char} (h : c.isDigit) : 48 ≤ c.toNat ∧ c.toNat ≤ 57 := by
  simp only [Char.isDigit, ge_iff_le, Bool.and_eq_true, decide_eq_true_eq] at h
  exact ⟨UInt32.le_iff_toNat_le.mp h.1, UInt32.le_iff_toNat_le.mp h.2⟩

theorem ofDigitChars_lt {digits : List Char} (hDigits : ∀ c ∈ digits, c.isDigit) (n : Nat) :
    Nat.ofDigitChars 10 digits n < 10 ^ digits.length * (n + 1) := by
  induction digits generalizing n with
  | nil => simp
  | cons c digits ih =>
      have hRange := toNat_of_isDigit (hDigits c List.mem_cons_self)
      have hRest := ih (fun d hMem => hDigits d (List.mem_cons_of_mem c hMem))
        (10 * n + (c.toNat - '0'.toNat))
      have hZero : '0'.toNat = 48 := rfl
      have hNext : 10 * n + (c.toNat - '0'.toNat) + 1 ≤ 10 * (n + 1) := by omega
      rw [Nat.ofDigitChars_cons, List.length_cons, Nat.pow_succ, Nat.mul_assoc]
      exact Nat.lt_of_lt_of_le hRest (Nat.mul_le_mul_left _ hNext)

theorem length_padded {width n : Nat} (hPos : 0 < width) (hLt : n < 10 ^ width) :
    (padded width n).length = width := by
  rw [padded, List.length_leftpad]
  exact Nat.max_eq_left ((Nat.length_toDigits_le_iff (by decide) hPos).mpr hLt)

theorem lt_length_padded {width n : Nat} (hPos : 0 < width) (hLe : 10 ^ width ≤ n) :
    width < (padded width n).length := by
  rw [padded, List.length_leftpad]
  have hLong : ¬ (Nat.toDigits 10 n).length ≤ width := by
    rw [Nat.length_toDigits_le_iff (by decide) hPos]
    exact Nat.not_lt.mpr hLe
  omega

theorem readNumber_padded {width n : Nat} (hPos : 0 < width) (hLt : n < 10 ^ width)
    (rest : List Char) : readNumber width (padded width n ++ rest) = some (n, rest) := by
  have hLength := length_padded hPos hLt
  have hTake : (padded width n ++ rest).take width = padded width n := List.take_left' hLength
  have hDrop : (padded width n ++ rest).drop width = rest := List.drop_left' hLength
  have hDigits : (padded width n).all Char.isDigit := List.all_eq_true.mpr (padded_digits width n)
  have hWidth : width ≤ (padded width n ++ rest).length := by
    rw [List.length_append, hLength]
    exact Nat.le_add_right width rest.length
  rw [readNumber, hTake, if_pos ⟨hWidth, hDigits⟩, hDrop, ofDigitChars_padded]

theorem readNumber_some {width n : Nat} {text rest : List Char}
    (h : readNumber width text = some (n, rest)) :
    ∃ digits, text = digits ++ rest ∧ (∀ c ∈ digits, c.isDigit) ∧ digits.length = width := by
  rw [readNumber] at h
  split at h
  case isFalse => cases h
  case isTrue hDigits =>
      cases h
      exact ⟨text.take width, (List.take_append_drop width text).symm,
        List.all_eq_true.mp hDigits.2, List.length_take_of_le hDigits.1⟩

end Digits
