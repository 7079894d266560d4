import PgClient.Types.DateTime

/-!
What the server sends for a timestamp, and which of it is read alike in both formats.
-/

namespace PgClient

open FromSql DateFormat Digits

/-- A date and a time of day with what comes after the seconds, as ISO 8601 writes them. -/
def timestampItems (separators : List Char) (tail : List Item) : List Item :=
  [.number .year, .oneOf ['-'], .number .month, .oneOf ['-'], .number .day, .oneOf separators,
    .number .hour, .oneOf [':'], .number .minute, .oneOf [':'], .number .second] ++ tail

namespace NaiveDateTime

/-- The datetime that a text says. -/
def Means (dt : NaiveDateTime) (fields : Fields) : Prop :=
  dt.seconds = fields.unixSeconds ∧ dt.nanos = fields.nanos

theorem Means.unique {dt dt' : NaiveDateTime} {fields : Fields} (h : dt.Means fields)
    (h' : dt'.Means fields) : dt = dt' := by
  obtain ⟨seconds, nanos, _⟩ := dt
  obtain ⟨seconds', nanos', _⟩ := dt'
  obtain ⟨rfl, rfl⟩ := h
  obtain ⟨rfl, rfl⟩ := h'
  rfl

end NaiveDateTime

/-- A timestamp as the server shows it, at an offset from UTC if it has a time zone. -/
structure Moment where
  date : Calendar.Date
  hour : Nat
  minute : Nat
  second : Nat
  fraction : List Char
  zone : Option Int
  hour_lt : hour < 24
  minute_lt : minute < 60
  second_lt : second < 60
  fraction_digits : ∀ c ∈ fraction, c.isDigit
  fraction_le : fraction.length ≤ 6
  zone_lt : ∀ ahead ∈ zone, ahead.natAbs < 57600

namespace Moment

/-- The offset by hours, minutes and seconds, as far as they are needed. -/
def zoneText (ahead : Int) : List Char :=
  (if ahead < 0 then '-' else '+') :: (padded 2 (ahead.natAbs / 3600) ++
    if ahead.natAbs % 60 = 0 then minutesText ahead.natAbs
    else ':' :: (padded 2 (ahead.natAbs / 60 % 60) ++ ':' :: padded 2 (ahead.natAbs % 60)))

def fractionText (fraction : List Char) : List Char :=
  if fraction = [] then [] else '.' :: fraction

/-- There is no year 0; the years before the first one are counted backwards. -/
def yearOfEra (year : Int) : Nat := (if 0 < year then year else 1 - year).toNat

def text (m : Moment) : List Char :=
  padded 4 (yearOfEra m.date.year) ++ '-' :: (padded 2 m.date.month ++ '-' ::
    (padded 2 m.date.day ++ ' ' :: (padded 2 m.hour ++ ':' :: (padded 2 m.minute ++ ':' ::
      (padded 2 m.second ++ (fractionText m.fraction ++ ((m.zone.map zoneText).getD [] ++
        if 0 < m.date.year then [] else [' ', 'B', 'C'])))))))

def unixSeconds (m : Moment) : Int :=
  86400 * (m.date.days - Calendar.dayNumber 1970 1 1) + 3600 * m.hour + 60 * m.minute + m.second -
    m.zone.getD 0

def microsOfSecond (m : Moment) : Nat :=
  Nat.ofDigitChars 10 m.fraction 0 * 10 ^ (6 - m.fraction.length)

/-- The number that the server sends for it in binary format. -/
def micros (m : Moment) : Int := 1000000 * (m.unixSeconds - pgEpoch.seconds) + m.microsOfSecond

/-- The finite timestamps of the server. -/
def Sent (m : Moment) : Prop := -211813488000000000 ≤ m.micros ∧ m.micros < 9223371331200000000

instance (m : Moment) : Decidable m.Sent := inferInstanceAs (Decidable (_ ∧ _))

theorem microsOfSecond_lt (m : Moment) : m.microsOfSecond < 1000000 := by
  have hDigits := ofDigitChars_lt m.fraction_digits 0
  rw [Nat.zero_add, Nat.mul_one] at hDigits
  have hPos : 0 < 10 ^ (6 - m.fraction.length) := Nat.pow_pos (by decide)
  have hLt := Nat.mul_lt_mul_of_pos_right hDigits hPos
  rw [← Nat.pow_add, Nat.add_sub_cancel' m.fraction_le] at hLt
  exact hLt

theorem nanos_lt (m : Moment) : 1000 * m.microsOfSecond < 2000000000 := by
  have hLt := m.microsOfSecond_lt
  omega

def value (m : Moment) : NaiveDateTime where
  seconds := m.unixSeconds
  nanos := 1000 * m.microsOfSecond
  nanos_lt := m.nanos_lt

/-- The value is as far from the epoch as the number says. -/
theorem total_value (m : Moment) : m.value.total = pgEpoch.total + 1000 * m.micros := by
  have hEpoch : pgEpoch.nanos = 0 := rfl
  simp only [NaiveDateTime.total, value, micros, hEpoch]
  omega

theorem not_inLeapSecond_value (m : Moment) : ¬ m.value.InLeapSecond := by
  have hLt := m.microsOfSecond_lt
  simp only [NaiveDateTime.InLeapSecond, value]
  omega

/-- What the text of a timestamp of our era says. -/
def fields (m : Moment) : Fields where
  year := m.date.year.toNat
  month := m.date.month
  day := m.date.day
  hour := m.hour
  minute := m.minute
  second := m.second
  nanos := 1000 * m.microsOfSecond
  offset := m.zone.getD 0

theorem natAbs_zone_lt (m : Moment) : (m.zone.getD 0).natAbs < 57600 := by
  have hLt := m.zone_lt
  cases hZone : m.zone with
  | none => decide
  | some ahead => exact hLt ahead (by rw [hZone]; rfl)

theorem fields_valid {m : Moment} (hYear : 0 < m.date.year) : m.fields.Valid where
  month_pos := m.date.month_pos
  month_le := m.date.month_le
  day_pos := m.date.day_pos
  day_le := by
    simp only [fields, Int.toNat_of_nonneg (Int.le_of_lt hYear)]
    exact m.date.day_le
  hour_lt := m.hour_lt
  minute_lt := m.minute_lt
  second_lt := m.second_lt
  nanos_lt := by
    have hLt := m.microsOfSecond_lt
    simp only [fields]
    omega
  offset_lt := Nat.lt_trans m.natAbs_zone_lt (by decide)

theorem value_means {m : Moment} (hYear : 0 < m.date.year) : m.value.Means m.fields := by
  refine ⟨?_, rfl⟩
  simp only [value, unixSeconds, fields, Fields.unixSeconds, Calendar.Date.days,
    Int.toNat_of_nonneg (Int.le_of_lt hYear)]

/-- The timestamps that the formats of the client account for: those of the years with four
digits whose offset has no seconds and which have no fraction without an offset. -/
structure Covered (m : Moment) : Prop where
  year_pos : 0 < m.date.year
  year_le : m.date.year ≤ 9999
  fraction : m.zone = none → m.fraction = []
  zone : ∀ ahead ∈ m.zone, ahead % 60 = 0

theorem zoneText_of_minutes {ahead : Int} (hMinutes : ahead % 60 = 0) :
    zoneText ahead = offsetText ahead := by
  rw [zoneText, offsetText, if_pos (show ahead.natAbs % 60 = 0 by omega)]

theorem readItems_fraction {m : Moment} (items : List Item) (fields : Fields) {c : Char}
    {rest : List Char} (hSign : isSign c) :
    readItems (.fraction :: items) fields (fractionText m.fraction ++ c :: rest) =
      readItems items { fields with nanos := 1000 * m.microsOfSecond } (c :: rest) := by
  have hStop : (c :: rest).head?.all (!·.isDigit) := by
    rw [List.head?_cons, Option.all_some]
    cases hDigit : c.isDigit with
    | false => rfl
    | true =>
        rw [isSign_of_isDigit hDigit] at hSign
        cases hSign
  have hRead : readFraction (fractionText m.fraction ++ c :: rest) =
      some (1000 * m.microsOfSecond, c :: rest) := by
    by_cases hNil : m.fraction = []
    · have hPoint : c ≠ '.' := by
        intro hPoint
        rw [hPoint] at hSign
        cases hSign
      rw [fractionText, if_pos hNil, List.nil_append, readFraction]
      · simp [microsOfSecond, hNil]
      · intro _ hEq
        exact hPoint (List.cons.inj hEq).1
    · have hLe := m.fraction_le
      have hPow : 10 ^ (9 - m.fraction.length) = 1000 * 10 ^ (6 - m.fraction.length) := by
        rw [show 9 - m.fraction.length = 3 + (6 - m.fraction.length) by omega, Nat.pow_add]
      rw [fractionText, if_neg hNil, List.cons_append,
        readFraction_digits m.fraction_digits hNil (by omega) hStop, microsOfSecond, hPow,
        Nat.mul_left_comm]
  rw [readItems, Item.read, hRead]
  rfl

theorem two_digits {n : Nat} (h : n < 100) (part : Part) : n < 10 ^ part.width := by
  cases part with
  | year => exact Nat.lt_trans h (by decide)
  | _ => exact h

/-- The date and the time of day are read from the text, which goes on with `rest`. -/
theorem readItems_front {m : Moment} (h : m.Covered) (tail : List Item) (rest : List Char) :
    readItems (timestampItems [' '] tail) .unread
        (padded 4 (yearOfEra m.date.year) ++ '-' :: (padded 2 m.date.month ++ '-' ::
          (padded 2 m.date.day ++ ' ' :: (padded 2 m.hour ++ ':' :: (padded 2 m.minute ++ ':' ::
            (padded 2 m.second ++ rest)))))) =
      readItems tail { m.fields with nanos := 0, offset := 0 } rest := by
  have hYear : yearOfEra m.date.year = m.date.year.toNat := by rw [yearOfEra, if_pos h.year_pos]
  have hYearLt : m.date.year.toNat < 10 ^ Part.year.width := by
    have hLe := h.year_le
    simp only [Part.width]
    omega
  have hMonth := Nat.lt_of_le_of_lt m.date.month_le (by decide : 12 < 100)
  have hDay := Nat.lt_of_le_of_lt (Nat.le_trans m.date.day_le
    (Calendar.daysInMonth_le m.date.year m.date.month)) (by decide : 31 < 100)
  have hHour := Nat.lt_trans m.hour_lt (by decide : 24 < 100)
  have hMinute := Nat.lt_trans m.minute_lt (by decide : 60 < 100)
  have hSecond := Nat.lt_trans m.second_lt (by decide : 60 < 100)
  rw [hYear]
  refine (readItems_number hYearLt _ _ _).trans ((readItems_literal '-' _ _ _).trans ?_)
  refine (readItems_number (two_digits hMonth .month) _ _ _).trans ?_
  refine (readItems_literal '-' _ _ _).trans ?_
  refine (readItems_number (two_digits hDay .day) _ _ _).trans ?_
  refine (readItems_literal ' ' _ _ _).trans ?_
  refine (readItems_number (two_digits hHour .hour) _ _ _).trans ?_
  refine (readItems_literal ':' _ _ _).trans ?_
  refine (readItems_number (two_digits hMinute .minute) _ _ _).trans ?_
  refine (readItems_literal ':' _ _ _).trans ?_
  exact readItems_number (two_digits hSecond .second) _ _ _

/-- The text is read by the items that account for its fraction and its offset. -/
theorem readText_text {m : Moment} (h : m.Covered) {tail : List Item}
    (hTail : tail = [] ∨ tail = [.offset] ∨ tail = [.fraction, .offset])
    (hOffset : m.zone.isSome ↔ Item.offset ∈ tail)
    (hFraction : m.fraction ≠ [] → .fraction ∈ tail) :
    readText (timestampItems [' '] tail) m.text = some m.fields := by
  have hEra : (if 0 < m.date.year then [] else [' ', 'B', 'C']) = [] := if_pos h.year_pos
  have hNanos : m.fraction = [] → 1000 * m.microsOfSecond = 0 := by
    intro hNil
    simp [microsOfSecond, hNil]
  rw [readText, text, hEra, readItems_front h, List.append_nil]
  cases hZone : m.zone with
  | none =>
      rw [hZone] at hOffset
      have hNil := h.fraction hZone
      rcases hTail with rfl | rfl | rfl
      · simp only [fractionText, hNil, if_true, Option.map_none, Option.getD_none, List.append_nil,
          readItems, fields, hNanos hNil, hZone]
      · exact absurd (hOffset.mpr (by decide)) (by decide)
      · exact absurd (hOffset.mpr (by decide)) (by decide)
  | some ahead =>
      rw [hZone] at hOffset
      have hMinutes := h.zone ahead hZone
      have hRange : ahead.natAbs < 360000 :=
        Nat.lt_trans (m.zone_lt ahead hZone) (by decide)
      have hRead := readOffset_offsetText hRange hMinutes
      rcases hTail with rfl | rfl | rfl
      · exact absurd (hOffset.mp rfl) (by decide)
      · have hNil : m.fraction = [] := by
          by_contra hNil
          exact absurd (hFraction hNil) (by decide)
        simp only [fractionText, hNil, if_true, Option.map_some, Option.getD_some, List.nil_append,
          zoneText_of_minutes hMinutes, readItems, Item.read, hRead, Option.bind_some, fields,
          hNanos hNil, hZone]
      · have hSign : isSign (if ahead < 0 then '-' else '+') := by split <;> rfl
        simp only [Option.map_some, Option.getD_some, zoneText_of_minutes hMinutes]
        rw [offsetText] at hRead ⊢
        rw [readItems_fraction _ _ hSign]
        simp only [readItems, Item.read, hRead, Option.map_some, Option.bind_some, fields, hZone,
          Option.getD_some]

theorem countP_isSign_padded (width n : Nat) : (padded width n).countP isSign = 0 :=
  countP_isSign_digits (padded_digits width n)

theorem isSign_zone (ahead : Int) : isSign (if ahead < 0 then '-' else '+') := by
  split <;> rfl

/-- After its sign an offset has no other one. -/
theorem zoneText_tail (ahead : Int) :
    ∃ tail, zoneText ahead = (if ahead < 0 then '-' else '+') :: tail ∧
      (∀ c ∈ tail, isSign c = false) ∧
      (ahead.natAbs < 57600 → ahead % 60 ≠ 0 → tail.countP Char.isDigit = 6) := by
  have hPadded : ∀ width n, ∀ c ∈ padded width n, isSign c = false :=
    fun width n c hMem => isSign_of_isDigit (padded_digits width n c hMem)
  refine ⟨_, rfl, ?_, ?_⟩
  · intro c hMem
    rw [List.mem_append] at hMem
    cases hMem with
    | inl hHours => exact hPadded _ _ c hHours
    | inr hRest =>
        split at hRest
        case isTrue =>
            rw [minutesText] at hRest
            split at hRest
            case isTrue => cases hRest
            case isFalse =>
                obtain rfl | hMinutes := List.mem_cons.mp hRest
                · rfl
                · exact hPadded _ _ c hMinutes
        case isFalse =>
            simp only [List.mem_cons, List.mem_append] at hRest
            rcases hRest with rfl | hMinutes | rfl | hSeconds
            · rfl
            · exact hPadded _ _ c hMinutes
            · rfl
            · exact hPadded _ _ c hSeconds
  · intro hRange hSeconds
    have hDigits : ∀ n, n < 100 → (padded 2 n).countP Char.isDigit = 2 := by
      intro n hLt
      rw [List.countP_eq_length.mpr (padded_digits 2 n)]
      exact length_padded Nat.two_pos hLt
    have hNot : ¬ ahead.natAbs % 60 = 0 := by omega
    simp only [if_neg hNot, List.countP_append, List.countP_cons,
      hDigits (ahead.natAbs / 3600) (by omega), hDigits (ahead.natAbs / 60 % 60) (by omega),
      hDigits (ahead.natAbs % 60) (by omega)]
    rfl

/-- The signs of a text: two in the date, and that of the offset. -/
theorem countP_isSign_text {m : Moment} (hYear : 0 < m.date.year) :
    m.text.countP isSign = if m.zone.isSome then 3 else 2 := by
  have hFraction : (fractionText m.fraction).countP isSign = 0 := by
    rw [fractionText]
    split
    · rfl
    · rw [List.countP_cons, countP_isSign_digits m.fraction_digits]
      rfl
  have hMinus : isSign '-' = true := rfl
  have hColon : isSign ':' = false := rfl
  have hSpace : isSign ' ' = false := rfl
  have hZone : ((m.zone.map zoneText).getD []).countP isSign = if m.zone.isSome then 1 else 0 := by
    cases m.zone with
    | none => rfl
    | some ahead =>
        obtain ⟨tail, hText, hTail, _⟩ := zoneText_tail ahead
        simp only [Option.map_some, Option.getD_some, hText, List.countP_cons, isSign_zone,
          countP_isSign hTail, if_true, Option.isSome_some]
  simp only [text, if_pos hYear, List.countP_append, List.countP_cons, countP_isSign_padded,
    hFraction, hZone, hMinus, hColon, hSpace, List.countP_nil]
  cases m.zone <;> rfl

theorem text_year (m : Moment) :
    ∃ rest, m.text = padded 4 (yearOfEra m.date.year) ++ '-' :: rest := ⟨_, rfl⟩

theorem text_zone {m : Moment} {ahead : Int} (hYear : 0 < m.date.year)
    (hZone : m.zone = some ahead) : ∃ front, m.text = front ++ zoneText ahead := by
  refine ⟨padded 4 (yearOfEra m.date.year) ++ '-' :: (padded 2 m.date.month ++ '-' ::
    (padded 2 m.date.day ++ ' ' :: (padded 2 m.hour ++ ':' :: (padded 2 m.minute ++ ':' ::
      (padded 2 m.second ++ fractionText m.fraction))))), ?_⟩
  simp only [text, if_pos hYear, hZone, Option.map_some, Option.getD_some, List.append_assoc,
    List.cons_append, List.append_nil]

/-- The signs that are admitted are those of the items after the year. -/
theorem countP_isSign_of_admits {m : Moment} {items : List Item}
    (h : Admits (.number .year :: items) m.text) (hSteady : items.all Item.isSteady) :
    m.text.countP isSign = items.countP Item.isSigned := by
  have hHead : m.text.head?.any Char.isDigit := by
    obtain ⟨rest, hText⟩ := m.text_year
    have hDigits := padded_digits 4 (yearOfEra m.date.year)
    have hLength : 4 ≤ (padded 4 (yearOfEra m.date.year)).length := by
      rw [padded, List.length_leftpad]
      exact Nat.le_max_left _ _
    rw [hText]
    cases hPadded : padded 4 (yearOfEra m.date.year) with
    | nil =>
        rw [hPadded] at hLength
        cases hLength
    | cons c digits =>
        rw [hPadded] at hDigits
        exact hDigits c List.mem_cons_self
  obtain ⟨digits, rest, hText, hDigits, _, hRest⟩ := h.year hHead
  rw [hText, List.countP_append, countP_isSign_digits hDigits, hRest.countP_isSign hSteady,
    Nat.zero_add]

/-- What is admitted of the texts of the server: no years before our era or with more than four
digits, a fraction or an offset only if there is an item for it, and no seconds in an offset. -/
theorem admits_text {m : Moment} {separators : List Char} {tail : List Item}
    (hSeparators : separators = [' '] ∨ separators = ['T', 't', ' '])
    (hTail : tail = [] ∨ tail = [.offset] ∨ tail = [.fraction, .offset])
    (h : Admits (timestampItems separators tail) m.text) :
    0 < m.date.year ∧ m.date.year ≤ 9999 ∧ (m.zone.isSome ↔ Item.offset ∈ tail) ∧
      (m.fraction ≠ [] → .fraction ∈ tail) ∧ ∀ ahead ∈ m.zone, ahead % 60 = 0 := by
  have hYear : 0 < m.date.year := by
    have hNone : (timestampItems separators tail).all (!·.allows 'B') := by
      rcases hSeparators with rfl | rfl <;> rcases hTail with rfl | rfl | rfl <;> decide
    by_contra hEra
    refine h.not_mem hNone ?_
    simp [text, if_neg hEra]
  have hDigits := padded_digits 4 (yearOfEra m.date.year)
  obtain ⟨rest, hText⟩ := m.text_year
  have hSigns : m.zone.isSome ↔ Item.offset ∈ tail := by
    have hSteady : (timestampItems separators tail).tail.all Item.isSteady := by
      rcases hSeparators with rfl | rfl <;> rcases hTail with rfl | rfl | rfl <;> decide
    have hCount := countP_isSign_of_admits h hSteady
    rw [countP_isSign_text hYear] at hCount
    have hItems : (timestampItems separators tail).tail.countP Item.isSigned =
        if Item.offset ∈ tail then 3 else 2 := by
      rcases hSeparators with rfl | rfl <;> rcases hTail with rfl | rfl | rfl <;> decide
    have hBoth := hCount.trans hItems
    constructor
    · intro hZone
      by_contra hNoItem
      rw [if_pos hZone, if_neg hNoItem] at hBoth
      cases hBoth
    · intro hItem
      by_contra hNoZone
      rw [if_neg hNoZone, if_pos hItem] at hBoth
      cases hBoth
  refine ⟨hYear, ?_, hSigns, ?_, ?_⟩
  · by_contra hLong
    rw [hText] at h
    refine Admits.not_longYear hDigits (lt_length_padded (Nat.zero_lt_succ 3) ?_) h
    rw [yearOfEra, if_pos hYear]
    omega
  · intro hFraction
    by_contra hNoItem
    have hNone : (timestampItems separators tail).all (!·.allows '.') := by
      rcases hSeparators with rfl | rfl <;> rcases hTail with rfl | rfl | rfl
      all_goals first | decide | exact absurd (by decide) hNoItem
    refine h.not_mem hNone ?_
    simp [text, fractionText, if_neg hFraction]
  · intro ahead hZone
    by_contra hSeconds
    obtain ⟨zone, hZoneText, hNoSign, hSix⟩ := zoneText_tail ahead
    obtain ⟨front, hFront⟩ := text_zone hYear hZone
    have hLast : ∃ items, timestampItems separators tail = items ++ [.offset] := by
      have hOffset := hSigns.mp (by rw [hZone]; rfl)
      rcases hTail with rfl | rfl | rfl
      · cases hOffset
      · exact ⟨timestampItems separators [], rfl⟩
      · exact ⟨timestampItems separators [.fraction], rfl⟩
    obtain ⟨items, hItems⟩ := hLast
    rw [hItems, hFront, hZoneText] at h
    have hFour := h.digits_le (isSign_zone ahead) hNoSign
    rw [hSix (m.zone_lt ahead hZone) hSeconds] at hFour
    exact absurd hFour (by decide)

theorem sixty_pos : 0 < 60 := by decide

/-- Every number of microseconds has a text at every offset. -/
theorem exists_of_micros (micros : Int) (zone : Option Int)
    (hZone : ∀ ahead ∈ zone, ahead.natAbs < 57600) :
    ∃ m : Moment, m.micros = micros ∧ m.zone = zone := by
  let seconds := pgEpoch.seconds + micros / 1000000 + zone.getD 0
  let ofDay := (seconds % 86400).toNat
  let ofSecond := (micros % 1000000).toNat
  obtain ⟨date, hDate⟩ := Calendar.Date.exists_of_days
    (seconds / 86400 + Calendar.dayNumber 1970 1 1)
  have hOfSecond : ofSecond < 10 ^ 6 := by
    simp only [ofSecond]
    omega
  have hLength : (padded 6 ofSecond).length = 6 := length_padded (Nat.zero_lt_succ 5) hOfSecond
  refine ⟨⟨date, ofDay / 3600, ofDay / 60 % 60, ofDay % 60, padded 6 ofSecond, zone, ?_, ?_, ?_,
    padded_digits 6 ofSecond, Nat.le_of_eq hLength, hZone⟩, ?_, rfl⟩
  · simp only [ofDay]
    omega
  · exact Nat.mod_lt _ sixty_pos
  · exact Nat.mod_lt _ sixty_pos
  · simp only [Moment.micros, unixSeconds, microsOfSecond, hLength, ofDigitChars_padded, hDate,
      Nat.sub_self, Nat.pow_zero, Nat.mul_one, ofDay, ofSecond, seconds]
    omega

end Moment

end PgClient
