import Mathlib.Algebra.Group.Int.Defs
import Mathlib.Algebra.GroupWithZero.Nat
import Mathlib.Data.List.Induction

/-!
Numbers in big-endian byte order, and signed numbers in two's complement.
-/

namespace BigEndian

/-- The last `width` bytes of a number. -/
def bytes : Nat → Nat → List UInt8
  | 0, _ => []
  | width + 1, n => bytes width (n / 256) ++ [UInt8.ofNat n]

def nat (bytes : List UInt8) : Nat := bytes.foldl (fun n b => 256 * n + b.toNat) 0

/-- The number below `256 ^ width` that stands for a signed one. -/
def unsigned (width : Nat) (i : Int) : Nat := (i % 256 ^ width).toNat

def signed (width n : Nat) : Int := if 2 * n < 256 ^ width then n else n - 256 ^ width

@[simp] theorem length_bytes (width n : Nat) : (bytes width n).length = width := by
  induction width generalizing n with
  | zero => rfl
  | succ width ih => simp [bytes, ih]

theorem nat_append_singleton (front : List UInt8) (b : UInt8) :
    nat (front ++ [b]) = 256 * nat front + b.toNat := by
  simp [nat]

theorem nat_bytes (width n : Nat) : nat (bytes width n) = n % 256 ^ width := by
  induction width generalizing n with
  | zero => simp [bytes, nat, Nat.mod_one]
  | succ width ih =>
      rw [bytes, nat_append_singleton, ih, Nat.pow_succ, Nat.mul_comm (256 ^ width) 256,
        Nat.mod_mul]
      simp
      omega

theorem nat_bytes_of_lt {width n : Nat} (h : n < 256 ^ width) : nat (bytes width n) = n := by
  rw [nat_bytes, Nat.mod_eq_of_lt h]

theorem unsigned_lt (width : Nat) (i : Int) : unsigned width i < 256 ^ width := by
  have hPos : (0 : Int) < 256 ^ width := Int.pow_pos (by decide)
  have hLt := Int.emod_lt_of_pos i hPos
  have hNonneg := Int.emod_nonneg i (Int.ne_of_gt hPos)
  rw [unsigned, ← Int.ofNat_lt, Int.toNat_of_nonneg hNonneg]
  simpa using hLt

/-- A number in range is read back. -/
theorem signed_unsigned {width : Nat} {i : Int} (hLow : -256 ^ width ≤ 2 * i)
    (hHigh : 2 * i < 256 ^ width) :
    signed width (unsigned width i) = i := by
  have hPos : (0 : Int) < 256 ^ width := Int.pow_pos (by decide)
  have hCast : ((unsigned width i : Nat) : Int) = i % 256 ^ width := by
    rw [unsigned, Int.toNat_of_nonneg (Int.emod_nonneg i (Int.ne_of_gt hPos))]
  have hPow : ((256 ^ width : Nat) : Int) = 256 ^ width := by simp
  by_cases hSign : 0 ≤ i
  · have hMod : i % 256 ^ width = i := Int.emod_eq_of_lt hSign (by omega)
    have hSmall : 2 * unsigned width i < 256 ^ width := by omega
    rw [signed, if_pos hSmall, hCast, hMod]
  · have hMod : i % 256 ^ width = i + 256 ^ width := by
      rw [← Int.add_emod_right, Int.emod_eq_of_lt (by omega) (by omega)]
    have hLarge : ¬ 2 * unsigned width i < 256 ^ width := by omega
    rw [signed, if_neg hLarge, hCast, hMod]
    omega

theorem nat_lt (bytes : List UInt8) : nat bytes < 256 ^ bytes.length := by
  induction bytes using List.reverseRecOn with
  | nil => decide
  | append_singleton front b ih =>
      have hByte : b.toNat < 256 := UInt8.toNat_lt b
      rw [nat_append_singleton, List.length_append, List.length_singleton, Nat.pow_succ]
      omega

/-- The bytes of a number written with all of its bytes. -/
theorem bytes_nat (bytes' : List UInt8) : bytes bytes'.length (nat bytes') = bytes' := by
  induction bytes' using List.reverseRecOn with
  | nil => rfl
  | append_singleton front b ih =>
      have hByte : b.toNat < 256 := UInt8.toNat_lt b
      have hFront : (256 * nat front + b.toNat) / 256 = nat front := by omega
      have hLast : UInt8.ofNat (256 * nat front + b.toNat) = b := by
        rw [← UInt8.toNat_inj, UInt8.toNat_ofNat']
        omega
      rw [List.length_append, List.length_singleton, bytes, nat_append_singleton, hFront, ih, hLast]

theorem signed_range {width n : Nat} (h : n < 256 ^ width) :
    -256 ^ width ≤ 2 * signed width n ∧ 2 * signed width n < 256 ^ width := by
  have hPow : ((256 ^ width : Nat) : Int) = 256 ^ width := by simp
  rw [signed]
  split <;> omega

theorem unsigned_signed {width n : Nat} (h : n < 256 ^ width) :
    unsigned width (signed width n) = n := by
  have hPow : ((256 ^ width : Nat) : Int) = 256 ^ width := by simp
  have hMod : signed width n % 256 ^ width = n := by
    rw [signed]
    split
    case isTrue => exact Int.emod_eq_of_lt (by omega) (by omega)
    case isFalse =>
        rw [← Int.add_emod_right, Int.sub_add_cancel]
        exact Int.emod_eq_of_lt (by omega) (by omega)
  rw [unsigned, hMod, Int.toNat_natCast]

end BigEndian
