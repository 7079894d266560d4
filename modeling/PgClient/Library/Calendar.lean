import Mathlib.Algebra.GroupWithZero.Nat
import Mathlib.Algebra.Group.Int.Defs
import Mathlib.Data.Int.Init

/-!
The Gregorian calendar, with a year 0 and the years before it, and the days since the first
of the year 1.
-/

namespace Calendar

def isLeap (year : Int) : Bool := year % 4 = 0 && (year % 100 ≠ 0 || year % 400 = 0)

def daysInMonth (year : Int) : Nat → Nat
  | 2 => if isLeap year then 29 else 28
  | 4 | 6 | 9 | 11 => 30
  | _ => 31

def daysBeforeYear (year : Int) : Int :=
  365 * (year - 1) + (year - 1) / 4 - (year - 1) / 100 + (year - 1) / 400

/-- The days of a year before one of its months, of which January is the first. -/
def daysBeforeMonth (year : Int) : Nat → Nat
  | 0 | 1 => 0
  | month + 2 => daysBeforeMonth year (month + 1) + daysInMonth year (month + 1)

/-- The days from the first of the year 1 to a day. -/
def dayNumber (year : Int) (month day : Nat) : Int :=
  daysBeforeYear year + daysBeforeMonth year month + (day - 1)

/-- A day of the calendar. -/
structure Date where
  year : Int
  month : Nat
  day : Nat
  month_pos : 0 < month
  month_le : month ≤ 12
  day_pos : 0 < day
  day_le : day ≤ daysInMonth year month

theorem daysInMonth_pos (year : Int) (month : Nat) : 0 < daysInMonth year month := by
  unfold daysInMonth
  split
  · split <;> omega
  all_goals omega

theorem daysInMonth_le (year : Int) (month : Nat) : daysInMonth year month ≤ 31 := by
  unfold daysInMonth
  split
  · split <;> omega
  all_goals omega

theorem one_le_twelve : 1 ≤ 12 := by decide

namespace Date

def days (date : Date) : Int := dayNumber date.year date.month date.day

def firstOfMonth (year : Int) (month : Nat) (hPos : 0 < month) (hLe : month ≤ 12) : Date where
  year := year
  month := month
  day := 1
  month_pos := hPos
  month_le := hLe
  day_pos := Nat.one_pos
  day_le := daysInMonth_pos year month

def lastOfMonth (year : Int) (month : Nat) (hPos : 0 < month) (hLe : month ≤ 12) : Date where
  year := year
  month := month
  day := daysInMonth year month
  month_pos := hPos
  month_le := hLe
  day_pos := daysInMonth_pos year month
  day_le := Nat.le_refl (daysInMonth year month)

end Date

/-- The twelve months make up the year. -/
theorem daysBeforeYear_succ (year : Int) :
    daysBeforeYear (year + 1) =
      daysBeforeYear year + daysBeforeMonth year 12 + daysInMonth year 12 := by
  cases hLeap : isLeap year with
  | true =>
      simp only [daysBeforeYear, daysBeforeMonth, daysInMonth, hLeap, if_true]
      simp only [isLeap, Bool.and_eq_true, Bool.or_eq_true, decide_eq_true_eq] at hLeap
      omega
  | false =>
      simp only [daysBeforeYear, daysBeforeMonth, daysInMonth, hLeap, Bool.false_eq_true, if_false]
      simp only [isLeap, Bool.and_eq_false_iff, Bool.or_eq_false_iff, decide_eq_false_iff_not]
        at hLeap
      omega

theorem daysBeforeMonth_succ (year : Int) {month : Nat} (hPos : 0 < month) :
    daysBeforeMonth year (month + 1) = daysBeforeMonth year month + daysInMonth year month := by
  obtain ⟨month, rfl⟩ := Nat.exists_eq_succ_of_ne_zero (Nat.ne_of_gt hPos)
  rfl

namespace Date

/-- The day after: in the same month, in the next one or in the next year. -/
theorem exists_next (date : Date) : ∃ next : Date, next.days = date.days + 1 := by
  by_cases hDay : date.day < daysInMonth date.year date.month
  · refine ⟨{ date with day := date.day + 1, day_pos := Nat.succ_pos _, day_le := hDay }, ?_⟩
    simp only [days, dayNumber]
    omega
  · have hLast : date.day = daysInMonth date.year date.month :=
      Nat.le_antisymm date.day_le (Nat.not_lt.mp hDay)
    by_cases hMonth : date.month < 12
    · refine ⟨firstOfMonth date.year (date.month + 1) (Nat.succ_pos _) hMonth, ?_⟩
      simp only [days, dayNumber, firstOfMonth, daysBeforeMonth_succ date.year date.month_pos,
        hLast]
      omega
    · have hDecember : date.month = 12 := Nat.le_antisymm date.month_le (Nat.not_lt.mp hMonth)
      refine ⟨firstOfMonth (date.year + 1) 1 Nat.one_pos one_le_twelve, ?_⟩
      simp only [days, dayNumber, firstOfMonth, daysBeforeYear_succ, hLast, hDecember,
        daysBeforeMonth]
      omega

/-- The day before. -/
theorem exists_previous (date : Date) : ∃ previous : Date, previous.days = date.days - 1 := by
  have hPos := date.day_pos
  by_cases hDay : 1 < date.day
  · have hLe := Nat.le_trans (Nat.sub_le date.day 1) date.day_le
    refine ⟨{ date with day := date.day - 1, day_pos := Nat.sub_pos_of_lt hDay, day_le := hLe }, ?_⟩
    simp only [days, dayNumber]
    omega
  · have hFirst : date.day = 1 := by omega
    have hMonthPos := date.month_pos
    by_cases hMonth : 1 < date.month
    · have hBefore := daysBeforeMonth_succ date.year (Nat.sub_pos_of_lt hMonth)
      rw [Nat.sub_add_cancel (Nat.le_of_lt hMonth)] at hBefore
      refine ⟨lastOfMonth date.year (date.month - 1) (Nat.sub_pos_of_lt hMonth)
        (Nat.le_trans (Nat.sub_le _ _) date.month_le), ?_⟩
      simp only [days, dayNumber, lastOfMonth, hFirst, hBefore]
      omega
    · have hJanuary : date.month = 1 := by omega
      have hYear := daysBeforeYear_succ (date.year - 1)
      rw [Int.sub_add_cancel] at hYear
      refine ⟨lastOfMonth (date.year - 1) 12 (by decide) (Nat.le_refl 12), ?_⟩
      simp only [days, dayNumber, lastOfMonth, hFirst, hJanuary, hYear, daysBeforeMonth]
      omega

/-- Every day has its date. -/
theorem exists_of_days (n : Int) : ∃ date : Date, date.days = n := by
  induction n using Int.induction_on with
  | zero => exact ⟨firstOfMonth 1 1 Nat.one_pos one_le_twelve, rfl⟩
  | succ n ih =>
      obtain ⟨date, hDate⟩ := ih
      obtain ⟨next, hNext⟩ := date.exists_next
      exact ⟨next, by rw [hNext, hDate]⟩
  | pred n ih =>
      obtain ⟨date, hDate⟩ := ih
      obtain ⟨previous, hPrevious⟩ := date.exists_previous
      exact ⟨previous, by rw [hPrevious, hDate]⟩

end Date
end Calendar
