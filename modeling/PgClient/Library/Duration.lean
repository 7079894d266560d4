import Mathlib.Order.Basic
import Mathlib.Tactic.Ring

/-!
Spans of time as 64-bit seconds and nanoseconds below a second, with the arithmetic that can
leave that range.
-/

structure Duration where
  secs : Nat
  nanos : Nat
  secs_lt : secs < 2 ^ 64
  nanos_lt : nanos < 10 ^ 9
deriving DecidableEq, Repr

namespace Duration

def ofMillis (ms : UInt64) : Duration where
  secs := ms.toNat / 1000
  nanos := ms.toNat % 1000 * 10 ^ 6
  secs_lt := Nat.lt_of_le_of_lt (Nat.div_le_self _ _) ms.toNat_lt
  nanos_lt := by omega

def ofSecs (secs : UInt64) : Duration where
  secs := secs.toNat
  nanos := 0
  secs_lt := secs.toNat_lt
  nanos_lt := by decide

def asNanos (d : Duration) : Nat := d.secs * 10 ^ 9 + d.nanos

/-- Seconds are compared first. -/
instance : LE Duration := ⟨fun a b => a.secs < b.secs ∨ a.secs = b.secs ∧ a.nanos ≤ b.nanos⟩

instance (a b : Duration) : Decidable (a ≤ b) :=
  inferInstanceAs (Decidable (a.secs < b.secs ∨ a.secs = b.secs ∧ a.nanos ≤ b.nanos))

instance : Min Duration := ⟨fun a b => if a ≤ b then a else b⟩

/-- The product with a 32-bit number, unless its seconds need more than 64 bits. -/
def checkedMul (d : Duration) (n : UInt32) : Option Duration :=
  let totalNanos := d.nanos * n.toNat
  let secs := d.secs * n.toNat + totalNanos / 10 ^ 9
  if h : secs < 2 ^ 64 then some ⟨secs, totalNanos % 10 ^ 9, h, by omega⟩ else none

theorem le_iff_asNanos {a b : Duration} : a ≤ b ↔ a.asNanos ≤ b.asNanos := by
  have ha := a.nanos_lt
  have hb := b.nanos_lt
  change a.secs < b.secs ∨ a.secs = b.secs ∧ a.nanos ≤ b.nanos ↔ _
  simp only [asNanos]
  omega

theorem asNanos_min (a b : Duration) : (min a b).asNanos = min a.asNanos b.asNanos := by
  change (if a ≤ b then a else b).asNanos = _
  by_cases h : a ≤ b
  · rw [if_pos h, Nat.min_eq_left (le_iff_asNanos.mp h)]
  · rw [if_neg h]
    have hLess : ¬ a.asNanos ≤ b.asNanos := fun hLe => h (le_iff_asNanos.mpr hLe)
    omega

@[simp] theorem asNanos_ofMillis (ms : UInt64) : (ofMillis ms).asNanos = ms.toNat * 10 ^ 6 := by
  simp only [asNanos, ofMillis]
  omega

/-- A product is exact, and there is one below 2^64 seconds. -/
theorem checkedMul_spec (d : Duration) (n : UInt32) :
    if d.asNanos * n.toNat < 2 ^ 64 * 10 ^ 9
    then ∃ product, d.checkedMul n = some product ∧ product.asNanos = d.asNanos * n.toNat
    else d.checkedMul n = none := by
  have hTotal : d.asNanos * n.toNat = d.secs * n.toNat * 10 ^ 9 + d.nanos * n.toNat := by
    rw [asNanos, Nat.add_mul]
    ring
  have hSplit := Nat.div_add_mod (d.nanos * n.toNat) (10 ^ 9)
  by_cases hFits : d.secs * n.toNat + d.nanos * n.toNat / 10 ^ 9 < 2 ^ 64
  · rw [if_pos (by omega)]
    refine ⟨_, dif_pos hFits, ?_⟩
    simp only [asNanos] at hTotal ⊢
    omega
  · rw [if_neg (by omega)]
    exact dif_neg hFits

end Duration
