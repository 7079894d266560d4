import PgClient.Types.Timestamp

/-!
The two formats of a timestamp: what is sent is read back, and what the server sends is read
alike in both of them where the formats of its text account for it.
-/

namespace PgClient

open FromSql DateFormat Digits

namespace Chrono

/-- What `chrono` promises: arithmetic that is exact or refused, and formats that take the texts
which are written by them and no others than those with the usual leniency. -/
structure Documented (chrono : Chrono) : Prop where
  signedDurationSince : ∀ dt dt' : NaiveDateTime, dt.InRange → dt'.InRange → ¬ dt.InLeapSecond →
    ¬ dt'.InLeapSecond → chrono.signedDurationSince dt dt' = dt.total - dt'.total
  numMicroseconds : ∀ (duration : Int) (n : Int64), duration % 1000 = 0 →
    (chrono.numMicroseconds duration = some n ↔ duration = 1000 * n.toInt)
  microseconds : ∀ n, chrono.microseconds n = 1000 * n.toInt
  checkedAddSigned : ∀ (dt : NaiveDateTime) duration sum, dt.InRange → ¬ dt.InLeapSecond →
    (chrono.checkedAddSigned dt duration = some sum ↔
      sum.total = dt.total + duration ∧ ¬ sum.InLeapSecond ∧ sum.InRange)
  parseFromStr : ∀ s format tail fields,
    items format.toList = some (timestampItems [' '] tail) →
    tail = [.offset] ∨ tail = [.fraction, .offset] →
    readText (timestampItems [' '] tail) s.toList = some fields → fields.Valid →
    ∃ dt, chrono.parseFromStr s format = .ok dt ∧ dt.naiveUtc.Means fields
  naiveParseFromStr : ∀ s format fields,
    items format.toList = some (timestampItems [' '] []) →
    readText (timestampItems [' '] []) s.toList = some fields → fields.Valid →
    ∃ dt, chrono.naiveParseFromStr s format = .ok dt ∧ dt.Means fields
  parseFromRfc3339 : ∀ s dt fields, chrono.parseFromRfc3339 s = .ok dt →
    readText (timestampItems [' '] [.fraction, .offset]) s.toList = some fields → fields.Valid →
    dt.naiveUtc.Means fields
  parseFromStr_admits : ∀ s format dt format', items format.toList = some format' →
    chrono.parseFromStr s format = .ok dt → Admits format' s.toList
  naiveParseFromStr_admits : ∀ s format dt format', items format.toList = some format' →
    chrono.naiveParseFromStr s format = .ok dt → Admits format' s.toList
  parseFromRfc3339_admits : ∀ s dt, chrono.parseFromRfc3339 s = .ok dt →
    Admits (timestampItems ['T', 't', ' '] [.fraction, .offset]) s.toList

end Chrono

namespace DateTime

variable {std : StdText} {chrono : Chrono} {s : String} {ty : Oid}

/-- The four readings of a text, with the items by which each of them takes it. -/
inductive Reads (chrono : Chrono) (s : String) : List Char → List Item → DateTime Utc → Prop where
  | rfc3339 {dt : DateTime FixedOffset} (h : chrono.parseFromRfc3339 s = .ok dt) :
      Reads chrono s ['T', 't', ' '] [.fraction, .offset] dt.withTimezoneUtc
  | seconds {dt : DateTime FixedOffset}
      (h : chrono.parseFromStr s "%Y-%m-%d %H:%M:%S%#z" = .ok dt) :
      Reads chrono s [' '] [.offset] dt.withTimezoneUtc
  | naive {dt : NaiveDateTime} (h : chrono.naiveParseFromStr s "%Y-%m-%d %H:%M:%S" = .ok dt) :
      Reads chrono s [' '] [] dt.andUtc
  | fraction {dt : DateTime FixedOffset}
      (h : chrono.parseFromStr s "%Y-%m-%d %H:%M:%S%.f%#z" = .ok dt) :
      Reads chrono s [' '] [.fraction, .offset] dt.withTimezoneUtc

theorem items_seconds : items "%Y-%m-%d %H:%M:%S%#z".toList =
    some (timestampItems [' '] [.offset]) := by decide

theorem items_naive : items "%Y-%m-%d %H:%M:%S".toList = some (timestampItems [' '] []) := by
  decide

theorem items_fraction : items "%Y-%m-%d %H:%M:%S%.f%#z".toList =
    some (timestampItems [' '] [.fraction, .offset]) := by decide

theorem reads_of_parse {dt : DateTime Utc} (h : parse chrono s = .ok dt) :
    ∃ separators tail, Reads chrono s separators tail dt := by
  obtain hFirst | hFraction := Except.of_orElseLazy h
  · obtain hFirst | hNaive := Except.of_orElseLazy hFirst
    · obtain hRfc | hSeconds := Except.of_orElseLazy hFirst
      · obtain ⟨read, hRead, rfl⟩ := Except.of_map hRfc
        exact ⟨_, _, .rfc3339 hRead⟩
      · obtain ⟨read, hRead, rfl⟩ := Except.of_map hSeconds
        exact ⟨_, _, .seconds hRead⟩
    · obtain ⟨read, hRead, rfl⟩ := Except.of_map hNaive
      exact ⟨_, _, .naive hRead⟩
  · obtain ⟨read, hRead, rfl⟩ := Except.of_map hFraction
    exact ⟨_, _, .fraction hRead⟩

/-- One reading is enough. -/
theorem parse_of_reads {separators : List Char} {tail : List Item} {dt : DateTime Utc}
    (h : Reads chrono s separators tail dt) : ∃ dt', parse chrono s = .ok dt' := by
  unfold parse
  cases h with
  | rfc3339 hRead =>
      exact Except.orElseLazy_ok (.inl (Except.orElseLazy_ok (.inl (Except.orElseLazy_ok
        (.inl ⟨_, congrArg (·.map withTimezoneUtc) hRead⟩)))))
  | seconds hRead =>
      exact Except.orElseLazy_ok (.inl (Except.orElseLazy_ok (.inl (Except.orElseLazy_ok
        (.inr ⟨_, congrArg (·.map withTimezoneUtc) hRead⟩)))))
  | naive hRead =>
      exact Except.orElseLazy_ok (.inl (Except.orElseLazy_ok
        (.inr ⟨_, congrArg (·.map NaiveDateTime.andUtc) hRead⟩)))
  | fraction hRead =>
      exact Except.orElseLazy_ok (.inr ⟨_, congrArg (·.map withTimezoneUtc) hRead⟩)

theorem Reads.admits {separators : List Char} {tail : List Item} {dt : DateTime Utc}
    (hChrono : chrono.Documented) (h : Reads chrono s separators tail dt) :
    (separators = [' '] ∨ separators = ['T', 't', ' ']) ∧
      (tail = [] ∨ tail = [.offset] ∨ tail = [.fraction, .offset]) ∧
      Admits (timestampItems separators tail) s.toList := by
  cases h with
  | rfc3339 h => exact ⟨.inr rfl, .inr (.inr rfl), hChrono.parseFromRfc3339_admits s _ h⟩
  | seconds h =>
      exact ⟨.inl rfl, .inr (.inl rfl), hChrono.parseFromStr_admits s _ _ _ items_seconds h⟩
  | naive h => exact ⟨.inl rfl, .inl rfl, hChrono.naiveParseFromStr_admits s _ _ _ items_naive h⟩
  | fraction h =>
      exact ⟨.inl rfl, .inr (.inr rfl), hChrono.parseFromStr_admits s _ _ _ items_fraction h⟩

/-- Whatever reads the text of a timestamp reads its value. -/
theorem Reads.value {m : Moment} {separators : List Char} {tail : List Item} {dt : DateTime Utc}
    (hChrono : chrono.Documented) (hCovered : m.Covered) (hText : s.toList = m.text)
    (h : Reads chrono s separators tail dt) : dt = m.value.andUtc := by
  obtain ⟨hSeparators, hTail, hAdmits⟩ := h.admits hChrono
  rw [hText] at hAdmits
  obtain ⟨hYear, _, hOffset, hFraction, _⟩ := Moment.admits_text hSeparators hTail hAdmits
  have hRead := Moment.readText_text hCovered hTail hOffset hFraction
  have hValid := Moment.fields_valid hYear
  have hValue := Moment.value_means hYear
  rw [← hText] at hRead
  have hMeans : dt.naiveUtc.Means m.fields := by
    cases h with
    | rfc3339 h => exact hChrono.parseFromRfc3339 s _ _ h hRead hValid
    | seconds h =>
        have hRead := hChrono.parseFromStr s _ _ _ items_seconds (.inl rfl) hRead hValid
        have hMeans := Except.of_exists hRead h
        exact hMeans
    | naive h =>
        have hRead := hChrono.naiveParseFromStr s _ _ items_naive hRead hValid
        have hMeans := Except.of_exists hRead h
        exact hMeans
    | fraction h =>
        have hRead := hChrono.parseFromStr s _ _ _ items_fraction (.inr rfl) hRead hValid
        have hMeans := Except.of_exists hRead h
        exact hMeans
  have hNaive : dt.naiveUtc = m.value := hMeans.unique hValue
  rw [← hNaive]
  rfl

/-- The text of such a timestamp is read by one of the formats, and its value is right. -/
theorem parse_text {m : Moment} (hChrono : chrono.Documented) (hCovered : m.Covered)
    (hText : s.toList = m.text) : parse chrono s = .ok m.value.andUtc := by
  have hValid := Moment.fields_valid hCovered.year_pos
  have hSome : ∃ separators tail dt, Reads chrono s separators tail dt := by
    cases hZone : m.zone with
    | none =>
        have hRead := Moment.readText_text hCovered (.inl rfl) (by simp [hZone])
          (fun hNot => absurd (hCovered.fraction hZone) hNot)
        rw [← hText] at hRead
        obtain ⟨dt, hOk, _⟩ := hChrono.naiveParseFromStr s _ _ items_naive hRead hValid
        exact ⟨_, _, _, .naive hOk⟩
    | some ahead =>
        have hRead := Moment.readText_text hCovered (.inr (.inr rfl)) (by simp [hZone])
          (fun _ => List.mem_cons_self)
        rw [← hText] at hRead
        obtain ⟨dt, hOk, _⟩ := hChrono.parseFromStr s _ _ _ items_fraction (.inr rfl) hRead hValid
        exact ⟨_, _, _, .fraction hOk⟩
  obtain ⟨_, _, _, hReads⟩ := hSome
  obtain ⟨dt, hParse⟩ := parse_of_reads hReads
  obtain ⟨_, _, hParsed⟩ := reads_of_parse hParse
  rw [hParse, hParsed.value hChrono hCovered hText]

/-- No other text of the server is read. -/
theorem covered_of_parse {m : Moment} {dt : DateTime Utc} (hChrono : chrono.Documented)
    (hText : s.toList = m.text) (h : parse chrono s = .ok dt) : m.Covered := by
  obtain ⟨separators, tail, hReads⟩ := reads_of_parse h
  obtain ⟨hSeparators, hTail, hAdmits⟩ := hReads.admits hChrono
  rw [hText] at hAdmits
  obtain ⟨hYear, hLe, hOffset, hFraction, hZone⟩ := Moment.admits_text hSeparators hTail hAdmits
  refine ⟨hYear, hLe, ?_, hZone⟩
  intro hNone
  by_contra hNot
  rw [hNone] at hOffset
  rcases hTail with rfl | rfl | rfl
  · exact absurd (hFraction hNot) (by decide)
  · exact absurd (hOffset.mpr (by decide)) (by decide)
  · exact absurd (hOffset.mpr (by decide)) (by decide)

theorem fromSql_text (s : String) :
    fromSql std chrono ty (some (lineBytes s)) .text =
      (parse chrono s).mapError fun e => .parseDateTimeError ("DateTime parse: " ++ e) := by
  have hUtf8 : fromUtf8 std (lineBytes s) = .ok s :=
    fromUtf8_ok.mpr (PgType.textOf_lineBytes s)
  rw [fromSql, hUtf8]
  rfl

theorem pgEpoch_inRange : pgEpoch.InRange := by decide

theorem pgEpoch_not_inLeapSecond : ¬ pgEpoch.InLeapSecond := by decide

/-- A binary value is the epoch and so many microseconds, if there is such a datetime. -/
theorem fromSql_binary (hChrono : chrono.Documented) (micros : Int64) (dt : DateTime Utc) :
    fromSql std chrono ty (some (RustType.toBeBytes 8 micros.toInt)) .binary = .ok dt ↔
      dt.naiveUtc.total = pgEpoch.total + 1000 * micros.toInt ∧ ¬ dt.naiveUtc.InLeapSecond ∧
        dt.naiveUtc.InRange := by
  have hLow : -256 ^ 8 ≤ 2 * micros.toInt := by
    have hLe := Int64.le_toInt micros
    omega
  have hHigh : 2 * micros.toInt < 256 ^ 8 := by
    have hLt := Int64.toInt_lt micros
    omega
  have hLength : (RustType.toBeBytes 8 micros.toInt).length = 8 := BigEndian.length_bytes ..
  have hSigned : BigEndian.signed 8 (BigEndian.nat (RustType.toBeBytes 8 micros.toInt)) =
      micros.toInt := by
    rw [RustType.toBeBytes, BigEndian.nat_bytes_of_lt (BigEndian.unsigned_lt ..),
      BigEndian.signed_unsigned hLow hHigh]
  rw [← hChrono.microseconds, ← hChrono.checkedAddSigned _ _ _ pgEpoch_inRange
    pgEpoch_not_inLeapSecond]
  simp only [fromSql, hLength, hSigned, Int64.ofInt_toInt, ne_eq, not_true_eq_false, if_false]
  cases hSum : chrono.checkedAddSigned pgEpoch (chrono.microseconds micros) with
  | none => simp
  | some sum =>
      simp only [Except.ok.injEq, Option.some.injEq]
      constructor
      · intro hEq
        rw [← hEq]
        rfl
      · intro hEq
        rw [hEq]
        rfl

/-- What has been sent is read back, but for leap seconds, which the number does not tell from
the seconds after them. -/
theorem fromSql_toSql (hChrono : chrono.Documented) {dt : DateTime Utc} {bytes : Bytes}
    (hRange : dt.naiveUtc.InRange) (hMicros : dt.naiveUtc.nanos % 1000 = 0)
    (hSent : dt.toSql chrono ty .binary = .ok (some bytes)) :
    fromSql std chrono ty (some bytes) .binary = .ok dt ↔ ¬ dt.naiveUtc.InLeapSecond := by
  simp only [toSql] at hSent
  split at hSent
  case h_2 => cases hSent
  case h_1 usec hUsec =>
      cases hSent
      rw [fromSql_binary hChrono]
      refine ⟨fun hBack => hBack.2.1, fun hLeap => ⟨?_, hLeap, hRange⟩⟩
      have hWhole : (dt.naiveUtc.total - pgEpoch.total) % 1000 = 0 := by
        have hEpoch : pgEpoch.total % 1000 = 0 := by decide
        simp only [NaiveDateTime.total] at hEpoch ⊢
        omega
      rw [hChrono.signedDurationSince _ _ hRange pgEpoch_inRange hLeap pgEpoch_not_inLeapSecond,
        hChrono.numMicroseconds _ _ hWhole] at hUsec
      omega

/-- What the server sends in binary format is read as its value. -/
theorem fromSql_micros {m : Moment} (hChrono : chrono.Documented) (hSent : m.Sent)
    (hRange : m.value.InRange) :
    fromSql std chrono ty (some (RustType.toBeBytes 8 m.micros)) .binary = .ok m.value.andUtc := by
  have hBack : (Int64.ofInt m.micros).toInt = m.micros := by
    obtain ⟨hLow, hHigh⟩ := hSent
    exact Int64.toInt_ofInt_of_le (by omega) (by omega)
  rw [← hBack, fromSql_binary hChrono, hBack]
  exact ⟨m.total_value, m.not_inLeapSecond_value, hRange⟩

/-- A datetime that is sent is read back if it is not in a leap second; a number is read as the
epoch and so many microseconds, if there is such a datetime; and of the texts of the server those
that the formats account for are read as the numbers are, and the others not at all. -/
theorem codec_exact_iff (std : StdText) (chrono : Chrono) (ty : Oid)
    (hChrono : chrono.Documented) :
    (∀ (dt : DateTime Utc) (bytes : Bytes), dt.naiveUtc.InRange → dt.naiveUtc.nanos % 1000 = 0 →
      dt.toSql chrono ty .binary = .ok (some bytes) →
      (fromSql std chrono ty (some bytes) .binary = .ok dt ↔ ¬ dt.naiveUtc.InLeapSecond)) ∧
    (∀ (micros : Int64) (dt : DateTime Utc),
      fromSql std chrono ty (some (RustType.toBeBytes 8 micros.toInt)) .binary = .ok dt ↔
        dt.naiveUtc.total = pgEpoch.total + 1000 * micros.toInt ∧ ¬ dt.naiveUtc.InLeapSecond ∧
          dt.naiveUtc.InRange) ∧
    ∀ m : Moment, m.Sent → m.value.InRange →
      ((∃ dt, fromSql std chrono ty (some (lineBytes (String.ofList m.text))) .text = .ok dt ∧
        fromSql std chrono ty (some (RustType.toBeBytes 8 m.micros)) .binary = .ok dt) ↔
          m.Covered) := by
  refine ⟨fun dt bytes hRange hMicros hSent => fromSql_toSql hChrono hRange hMicros hSent,
    fun micros dt => fromSql_binary hChrono micros dt, fun m hSent hRange => ?_⟩
  have hText : (String.ofList m.text).toList = m.text := String.toList_ofList
  rw [fromSql_text, fromSql_micros hChrono hSent hRange]
  constructor
  · intro hAlike
    obtain ⟨dt, hRead, _⟩ := hAlike
    exact covered_of_parse hChrono hText (Except.of_mapError hRead)
  · intro hCovered
    refine ⟨_, ?_, rfl⟩
    rw [parse_text hChrono hCovered hText]
    rfl

end DateTime

namespace Chrono

theorem nanos_exactly_lt (total : Int) : (total % 1000000000).toNat < 2000000000 := by omega

/-- The datetime that is so many nanoseconds after the start of 1970. -/
def exactly (total : Int) : NaiveDateTime where
  seconds := total / 1000000000
  nanos := (total % 1000000000).toNat
  nanos_lt := nanos_exactly_lt total

theorem total_exactly (total : Int) : (exactly total).total = total := by
  simp only [NaiveDateTime.total, exactly]
  omega

theorem exactly_not_inLeapSecond (total : Int) : ¬ (exactly total).InLeapSecond := by
  simp only [NaiveDateTime.InLeapSecond, exactly]
  omega

def strictFields (s format : String) : Option Fields :=
  ((items format.toList).bind (readText · s.toList)).filter (·.Valid)

def naiveOf (fields : Fields) : NaiveDateTime :=
  exactly (1000000000 * fields.unixSeconds + fields.nanos)

theorem naiveOf_means {fields : Fields} (h : fields.Valid) : (naiveOf fields).Means fields := by
  have hNanos := h.nanos_lt
  constructor
  · simp only [naiveOf, exactly]
    omega
  · simp only [naiveOf, exactly]
    omega

/-- Takes the texts that are written by a format, and none in the format of RFC 3339. -/
def strict : Chrono where
  signedDurationSince dt dt' := dt.total - dt'.total
  numMicroseconds duration :=
    if -2 ^ 63 ≤ duration / 1000 ∧ duration / 1000 < 2 ^ 63 then
      some (Int64.ofInt (duration / 1000))
    else none
  microseconds n := 1000 * n.toInt
  checkedAddSigned dt duration :=
    if (exactly (dt.total + duration)).InRange then some (exactly (dt.total + duration)) else none
  toRfc3339 _ := "2000-01-01T00:00:00+00:00"
  parseFromRfc3339 _ := .error "premature end of input"
  parseFromStr s format :=
    match strictFields s format with
    | some fields => .ok ⟨naiveOf fields, ⟨fields.offset⟩⟩
    | none => .error "premature end of input"
  naiveParseFromStr s format :=
    match strictFields s format with
    | some fields => .ok (naiveOf fields)
    | none => .error "premature end of input"

theorem strictFields_of_read {s format : String} {items' : List Item} {fields : Fields}
    (hItems : items format.toList = some items') (hRead : readText items' s.toList = some fields)
    (hValid : fields.Valid) : strictFields s format = some fields := by
  rw [strictFields, hItems, Option.bind_some, hRead, Option.filter_some,
    if_pos (decide_eq_true hValid)]

theorem admits_of_strictFields {s format : String} {items' : List Item} {fields : Fields}
    (hItems : items format.toList = some items') (h : strictFields s format = some fields) :
    Admits items' s.toList := by
  rw [strictFields, hItems, Option.bind_some] at h
  obtain ⟨hRead, _⟩ := Option.filter_eq_some_iff.mp h
  exact readText_admits hRead

theorem strict_documented : strict.Documented where
  signedDurationSince _ _ _ _ _ _ := rfl
  numMicroseconds duration n hWhole := by
    have hLow := Int64.le_toInt n
    have hHigh := Int64.toInt_lt n
    simp only [strict]
    constructor
    · intro h
      split at h
      case isFalse => cases h
      case isTrue hRange =>
          cases h
          rw [Int64.toInt_ofInt_of_le hRange.1 (by omega)]
          omega
    · rintro rfl
      rw [Int.mul_ediv_cancel_left _ (by decide), if_pos ⟨hLow, hHigh⟩, Int64.ofInt_toInt]
  microseconds _ := rfl
  checkedAddSigned dt duration sum _ _ := by
    simp only [strict]
    constructor
    · intro h
      split at h
      case isFalse => cases h
      case isTrue hRange =>
          cases h
          exact ⟨total_exactly _, exactly_not_inLeapSecond _, hRange⟩
    · rintro ⟨hTotal, hLeap, hRange⟩
      have hSum : exactly (dt.total + duration) = sum :=
        NaiveDateTime.total_inj ((total_exactly _).trans hTotal.symm)
          (exactly_not_inLeapSecond _) hLeap
      rw [hSum, if_pos hRange]
  parseFromStr s format tail fields hItems _ hRead hValid := by
    simp only [strict, strictFields_of_read hItems hRead hValid]
    exact ⟨_, rfl, naiveOf_means hValid⟩
  naiveParseFromStr s format fields hItems hRead hValid := by
    simp only [strict, strictFields_of_read hItems hRead hValid]
    exact ⟨_, rfl, naiveOf_means hValid⟩
  parseFromRfc3339 _ _ _ h := by cases h
  parseFromStr_admits s format dt format' hItems h := by
    simp only [strict] at h
    split at h
    case h_1 hFields => exact admits_of_strictFields hItems hFields
    case h_2 => cases h
  naiveParseFromStr_admits s format dt format' hItems h := by
    simp only [strict] at h
    split at h
    case h_1 hFields => exact admits_of_strictFields hItems hFields
    case h_2 => cases h
  parseFromRfc3339_admits _ _ h := by cases h

end Chrono

namespace Moment

theorem zero_lt_twentyFour : 0 < 24 := by decide

theorem no_zone_lt : ∀ ahead ∈ (none : Option Int), ahead.natAbs < 57600 := by simp

/-- The start of 2000, without a time zone, and so much later in its first second. -/
def start (fraction : List Char) (hDigits : ∀ c ∈ fraction, c.isDigit)
    (hLe : fraction.length ≤ 6) : Moment where
  date := Calendar.Date.firstOfMonth 2000 1 Nat.one_pos Calendar.one_le_twelve
  hour := 0
  minute := 0
  second := 0
  fraction := fraction
  zone := none
  hour_lt := zero_lt_twentyFour
  minute_lt := sixty_pos
  second_lt := sixty_pos
  fraction_digits := hDigits
  fraction_le := hLe
  zone_lt := no_zone_lt

theorem five_digits : ∀ c ∈ ['5'], c.isDigit := by
  intro c hMem
  rw [List.mem_singleton.mp hMem]
  rfl

theorem five_le : ['5'].length ≤ 6 := by decide

theorem no_digits_le : ([] : List Char).length ≤ 6 := by decide

def newYear : Moment := start [] (List.forall_mem_nil _) no_digits_le

def halfPast : Moment := start ['5'] five_digits five_le

theorem newYear_covered : newYear.Covered where
  year_pos := by decide
  year_le := by decide
  fraction _ := rfl
  zone _ hZone := by cases hZone

end Moment

namespace DateTime

/-- The start of 2000 is read alike in both formats. -/
theorem codec_exact_newYear :
    String.ofList Moment.newYear.text = "2000-01-01 00:00:00" ∧ Moment.newYear.micros = 0 ∧
      ∀ std, ∃ dt,
        fromSql std .strict PgType.timestamp
          (some (lineBytes (String.ofList Moment.newYear.text))) .text = .ok dt ∧
        fromSql std .strict PgType.timestamp
          (some (RustType.toBeBytes 8 Moment.newYear.micros)) .binary = .ok dt := by
  refine ⟨by decide, by decide, fun std => ?_⟩
  have hCodec := codec_exact_iff std .strict PgType.timestamp Chrono.strict_documented
  exact (hCodec.2.2 Moment.newYear (by decide) (by decide)).mpr Moment.newYear_covered

/-- Half a second later there is a value, which is not read from its text. -/
theorem half_not_alike :
    String.ofList Moment.halfPast.text = "2000-01-01 00:00:00.5" ∧
      Moment.halfPast.micros = 500000 ∧ Moment.halfPast.Sent ∧ Moment.halfPast.value.InRange ∧
      ∀ std chrono, chrono.Documented → ¬ ∃ dt,
        fromSql std chrono PgType.timestamp
          (some (lineBytes (String.ofList Moment.halfPast.text))) .text = .ok dt ∧
        fromSql std chrono PgType.timestamp
          (some (RustType.toBeBytes 8 Moment.halfPast.micros)) .binary = .ok dt := by
  refine ⟨by decide, by decide, by decide, by decide, fun std chrono hChrono hAlike => ?_⟩
  obtain ⟨dt, hText, _⟩ := hAlike
  rw [fromSql_text] at hText
  have hCovered := covered_of_parse hChrono String.toList_ofList (Except.of_mapError hText)
  exact absurd (hCovered.fraction rfl) (by decide)

end DateTime
end PgClient
