import PgClient.Library.DateLeniency
import PgClient.Types.Reads

/-!
`DateTime<Utc>` as a parameter and as the value of a timestamp column.
-/

namespace PgClient

open FromSql DateFormat

namespace PgType

def timestamptz : Oid := 1184

end PgType

/-- A date and a time of day, by the seconds since the start of 1970 and the nanoseconds after
them; in a leap second these go on beyond the second. -/
structure NaiveDateTime where
  seconds : Int
  nanos : Nat
  nanos_lt : nanos < 2000000000
deriving DecidableEq, Repr

structure Utc where
deriving DecidableEq, Repr

structure FixedOffset where
  seconds : Int
deriving DecidableEq, Repr

structure DateTime (Offset : Type) where
  naiveUtc : NaiveDateTime
  offset : Offset
deriving DecidableEq, Repr

namespace NaiveDateTime

theorem zero_lt_nanos : 0 < 2000000000 := by decide

def total (dt : NaiveDateTime) : Int := 1000000000 * dt.seconds + dt.nanos

def InLeapSecond (dt : NaiveDateTime) : Prop := 1000000000 ≤ dt.nanos

instance (dt : NaiveDateTime) : Decidable dt.InLeapSecond :=
  inferInstanceAs (Decidable (_ ≤ _))

def andUtc (dt : NaiveDateTime) : DateTime Utc := ⟨dt, ⟨⟩⟩

/-- The datetimes that there are, from the first day of the year -262143 to the last one of
262142. -/
def InRange (dt : NaiveDateTime) : Prop :=
  86400 * (Calendar.dayNumber (-262143) 1 1 - Calendar.dayNumber 1970 1 1) ≤ dt.seconds ∧
    dt.seconds < 86400 * (Calendar.dayNumber 262143 1 1 - Calendar.dayNumber 1970 1 1)

instance (dt : NaiveDateTime) : Decidable dt.InRange := inferInstanceAs (Decidable (_ ∧ _))

theorem total_inj {dt dt' : NaiveDateTime} (h : dt.total = dt'.total) (hLeap : ¬ dt.InLeapSecond)
    (hLeap' : ¬ dt'.InLeapSecond) : dt = dt' := by
  obtain ⟨seconds, nanos, _⟩ := dt
  obtain ⟨seconds', nanos', _⟩ := dt'
  simp only [total, InLeapSecond] at h hLeap hLeap'
  have hSeconds : seconds = seconds' := by omega
  have hNanos : nanos = nanos' := by omega
  subst hSeconds hNanos
  rfl

end NaiveDateTime

/-- What `chrono` does; a `Duration` is its number of nanoseconds. -/
structure Chrono where
  signedDurationSince : NaiveDateTime → NaiveDateTime → Int
  numMicroseconds : Int → Option Int64
  microseconds : Int64 → Int
  checkedAddSigned : NaiveDateTime → Int → Option NaiveDateTime
  toRfc3339 : DateTime Utc → String
  parseFromRfc3339 : String → Except String (DateTime FixedOffset)
  parseFromStr : String → String → Except String (DateTime FixedOffset)
  naiveParseFromStr : String → String → Except String NaiveDateTime

def pgEpoch : NaiveDateTime where
  seconds := 86400 * (Calendar.dayNumber 2000 1 1 - Calendar.dayNumber 1970 1 1)
  nanos := 0
  nanos_lt := NaiveDateTime.zero_lt_nanos

namespace DateTime

def withTimezoneUtc (dt : DateTime FixedOffset) : DateTime Utc := ⟨dt.naiveUtc, ⟨⟩⟩

def accepts (ty : Oid) : Bool := ty = PgType.timestamptz ∨ ty = PgType.timestamp

def toSql (chrono : Chrono) (dt : DateTime Utc) (_ty : Oid) :
    FormatCode → Except TypeError (Option Bytes)
  | .text => .ok (some (lineBytes (chrono.toRfc3339 dt)))
  | .binary =>
      match chrono.numMicroseconds (chrono.signedDurationSince dt.naiveUtc pgEpoch) with
      | some usec => .ok (some (RustType.toBeBytes 8 usec.toInt))
      | none => .error (.conversion "DateTime too large")

/-- The four readings of a text, of which the first that takes it is the one that counts. -/
def parse (chrono : Chrono) (s : String) : Except String (DateTime Utc) :=
  ((((chrono.parseFromRfc3339 s).map withTimezoneUtc).orElseLazy fun _ =>
    (chrono.parseFromStr s "%Y-%m-%d %H:%M:%S%#z").map withTimezoneUtc).orElseLazy fun _ =>
    (chrono.naiveParseFromStr s "%Y-%m-%d %H:%M:%S").map NaiveDateTime.andUtc).orElseLazy fun _ =>
    (chrono.parseFromStr s "%Y-%m-%d %H:%M:%S%.f%#z").map withTimezoneUtc

def fromSql (std : StdText) (chrono : Chrono) (_ty : Oid) (raw : Option Bytes)
    (format : FormatCode) : Except TypeError (DateTime Utc) :=
  match raw with
  | none => .error (.conversion "unexpected NULL for DateTime")
  | some bytes =>
      match format with
      | .text => do
          let s ← fromUtf8 std bytes
          (parse chrono s).mapError fun e => .parseDateTimeError ("DateTime parse: " ++ e)
      | .binary =>
          if bytes.length ≠ 8 then
            .error (.conversion
              ("invalid timestamp binary length: expected 8, got " ++ toString bytes.length))
          else
            let usec := Int64.ofInt (BigEndian.signed 8 (BigEndian.nat bytes))
            match chrono.checkedAddSigned pgEpoch (chrono.microseconds usec) with
            | some naive => .ok naive.andUtc
            | none => .error (.conversion "timestamp out of range")

end DateTime
end PgClient
