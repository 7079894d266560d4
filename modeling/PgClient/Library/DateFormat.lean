import PgClient.Library.Calendar
import PgClient.Library.Digits

/-!
Dates and times by formats of single items, as `strftime` has them, and what a text says that
gives every number all of its digits.
-/

namespace DateFormat

open Digits

inductive Part where
  | year
  | month
  | day
  | hour
  | minute
  | second
deriving DecidableEq, Repr

inductive Item where
  | number (part : Part)
  | fraction
  | offset
  | oneOf (chars : List Char)
deriving DecidableEq, Repr

/-- The items of a format. -/
def items : List Char → Option (List Item)
  | [] => some []
  | '%' :: 'Y' :: format => (items format).map (.number .year :: ·)
  | '%' :: 'm' :: format => (items format).map (.number .month :: ·)
  | '%' :: 'd' :: format => (items format).map (.number .day :: ·)
  | '%' :: 'H' :: format => (items format).map (.number .hour :: ·)
  | '%' :: 'M' :: format => (items format).map (.number .minute :: ·)
  | '%' :: 'S' :: format => (items format).map (.number .second :: ·)
  | '%' :: '.' :: 'f' :: format => (items format).map (.fraction :: ·)
  | '%' :: '#' :: 'z' :: format => (items format).map (.offset :: ·)
  | '%' :: _ => none
  | c :: format => (items format).map (.oneOf [c] :: ·)

/-- What a text says: a day, a time of day and how far that is ahead of UTC, in seconds. -/
structure Fields where
  year : Nat
  month : Nat
  day : Nat
  hour : Nat
  minute : Nat
  second : Nat
  nanos : Nat
  offset : Int
deriving DecidableEq, Repr

namespace Fields

def unread : Fields := ⟨0, 0, 0, 0, 0, 0, 0, 0⟩

def set (fields : Fields) (value : Nat) : Part → Fields
  | .year => { fields with year := value }
  | .month => { fields with month := value }
  | .day => { fields with day := value }
  | .hour => { fields with hour := value }
  | .minute => { fields with minute := value }
  | .second => { fields with second := value }

structure Valid (fields : Fields) : Prop where
  month_pos : 0 < fields.month
  month_le : fields.month ≤ 12
  day_pos : 0 < fields.day
  day_le : fields.day ≤ Calendar.daysInMonth fields.year fields.month
  hour_lt : fields.hour < 24
  minute_lt : fields.minute < 60
  second_lt : fields.second < 60
  nanos_lt : fields.nanos < 1000000000
  offset_lt : fields.offset.natAbs < 86400

theorem valid_iff (fields : Fields) :
    (0 < fields.month ∧ fields.month ≤ 12 ∧ 0 < fields.day ∧
      fields.day ≤ Calendar.daysInMonth fields.year fields.month ∧ fields.hour < 24 ∧
      fields.minute < 60 ∧ fields.second < 60 ∧ fields.nanos < 1000000000 ∧
      fields.offset.natAbs < 86400) ↔ fields.Valid := by
  constructor
  · rintro ⟨hMonth, hTwelve, hDay, hLast, hHour, hMinute, hSecond, hNanos, hOffset⟩
    exact ⟨hMonth, hTwelve, hDay, hLast, hHour, hMinute, hSecond, hNanos, hOffset⟩
  · intro h
    exact ⟨h.month_pos, h.month_le, h.day_pos, h.day_le, h.hour_lt, h.minute_lt, h.second_lt,
      h.nanos_lt, h.offset_lt⟩

instance (fields : Fields) : Decidable fields.Valid := decidable_of_iff _ fields.valid_iff

/-- The seconds since the start of 1970. -/
def unixSeconds (fields : Fields) : Int :=
  86400 * (Calendar.dayNumber fields.year fields.month fields.day - Calendar.dayNumber 1970 1 1) +
    3600 * fields.hour + 60 * fields.minute + fields.second - fields.offset

end Fields

def Part.width : Part → Nat
  | .year => 4
  | _ => 2

/-- The nanoseconds after a point, of which there may be none. -/
def readFraction : List Char → Option (Nat × List Char)
  | '.' :: text =>
      let digits := text.takeWhile Char.isDigit
      if digits ≠ [] ∧ digits.length ≤ 9 then
        some (Nat.ofDigitChars 10 digits 0 * 10 ^ (9 - digits.length), text.dropWhile Char.isDigit)
      else none
  | text => some (0, text)

/-- The minutes of an offset, which may be left out. -/
def readMinutes : List Char → Option (Nat × List Char)
  | ':' :: text => readNumber 2 text
  | text => some (0, text)

def readOffset : List Char → Option (Int × List Char)
  | [] => none
  | sign :: text =>
      if sign = '+' ∨ sign = '-' then
        (readNumber 2 text).bind fun (hours, rest) =>
          (readMinutes rest).map fun (minutes, rest) =>
            let seconds : Int := 3600 * hours + 60 * minutes
            (if sign = '-' then -seconds else seconds, rest)
      else none

def Item.read (item : Item) (fields : Fields) (text : List Char) : Option (Fields × List Char) :=
  match item with
  | .number part => (readNumber part.width text).map fun (n, rest) => (fields.set n part, rest)
  | .fraction => (readFraction text).map fun (part, rest) => ({ fields with nanos := part }, rest)
  | .offset => (readOffset text).map fun (ahead, rest) => ({ fields with offset := ahead }, rest)
  | .oneOf chars =>
      match text with
      | [] => none
      | c :: rest => if c ∈ chars then some (fields, rest) else none

def readItems : List Item → Fields → List Char → Option (Fields × List Char)
  | [], fields, text => some (fields, text)
  | item :: items, fields, text =>
      (item.read fields text).bind fun (fields, rest) => readItems items fields rest

/-- What a text says that is written by some items. -/
def readText (items : List Item) (text : List Char) : Option Fields :=
  match readItems items .unread text with
  | some (fields, []) => some fields
  | _ => none

theorem readFraction_digits {digits rest : List Char} (hDigits : ∀ c ∈ digits, c.isDigit)
    (hNil : digits ≠ []) (hLength : digits.length ≤ 9)
    (hRest : rest.head?.all (!·.isDigit)) :
    readFraction ('.' :: (digits ++ rest)) =
      some (Nat.ofDigitChars 10 digits 0 * 10 ^ (9 - digits.length), rest) := by
  have hTaken : rest.takeWhile Char.isDigit = [] ∧ rest.dropWhile Char.isDigit = rest := by
    cases rest with
    | nil => exact ⟨rfl, rfl⟩
    | cons c rest =>
        have hStop : c.isDigit = false := by simpa using hRest
        exact ⟨List.takeWhile_cons_of_neg (by simp [hStop]),
          List.dropWhile_cons_of_neg (by simp [hStop])⟩
  have hTake : (digits ++ rest).takeWhile Char.isDigit = digits := by
    rw [List.takeWhile_append_of_pos hDigits, hTaken.1, List.append_nil]
  have hDrop : (digits ++ rest).dropWhile Char.isDigit = rest := by
    rw [List.dropWhile_append_of_pos hDigits, hTaken.2]
  simp only [readFraction, hTake, hDrop]
  exact if_pos ⟨hNil, hLength⟩

/-- The minutes of an offset of so many seconds, left out where there are none. -/
def minutesText (seconds : Nat) : List Char :=
  if seconds % 3600 = 0 then [] else ':' :: padded 2 (seconds / 60 % 60)

theorem readMinutes_minutesText {seconds : Nat} (hMinutes : seconds % 60 = 0) :
    readMinutes (minutesText seconds) = some (seconds / 60 % 60, []) := by
  rw [minutesText]
  split
  case isTrue hWhole =>
      have hZero : seconds / 60 % 60 = 0 := by omega
      rw [hZero]
      rfl
  case isFalse =>
      have hLt : seconds / 60 % 60 < 10 ^ 2 := by omega
      have hRead := readNumber_padded Nat.two_pos hLt []
      rw [List.append_nil] at hRead
      exact hRead

def offsetText (seconds : Int) : List Char :=
  (if seconds < 0 then '-' else '+') ::
    (padded 2 (seconds.natAbs / 3600) ++ minutesText seconds.natAbs)

theorem readOffset_offsetText {seconds : Int} (hRange : seconds.natAbs < 360000)
    (hMinutes : seconds % 60 = 0) : readOffset (offsetText seconds) = some (seconds, []) := by
  have hHours := readNumber_padded Nat.two_pos
    (Nat.div_lt_of_lt_mul hRange : seconds.natAbs / 3600 < 10 ^ 2)
  have hRead := readMinutes_minutesText (show seconds.natAbs % 60 = 0 by omega)
  rw [offsetText]
  by_cases hNegative : seconds < 0
  · rw [if_pos hNegative, readOffset, if_pos (.inr rfl)]
    simp only [hHours, Option.bind_some, hRead, Option.map_some, if_true, Option.some.injEq,
      Prod.mk.injEq, and_true]
    omega
  · have hPlus : ¬ '+' = '-' := by decide
    rw [if_neg hNegative, readOffset, if_pos (.inl rfl)]
    simp only [hHours, Option.bind_some, hRead, Option.map_some, if_neg hPlus, Option.some.injEq,
      Prod.mk.injEq, and_true]
    omega

theorem readItems_number {part : Part} {n : Nat} (hLt : n < 10 ^ part.width) (items : List Item)
    (fields : Fields) (rest : List Char) :
    readItems (.number part :: items) fields (padded part.width n ++ rest) =
      readItems items (fields.set n part) rest := by
  have hPos : 0 < part.width := by cases part <;> decide
  rw [readItems, Item.read, readNumber_padded hPos hLt]
  rfl

theorem readItems_literal (c : Char) (items : List Item) (fields : Fields) (rest : List Char) :
    readItems (.oneOf [c] :: items) fields (c :: rest) = readItems items fields rest := by
  rw [readItems, Item.read]
  simp only [List.mem_singleton, if_true, Option.bind_some]

end DateFormat
