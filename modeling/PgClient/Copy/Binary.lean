import PgClient.Library.BigEndian
import PgClient.Protocol.Message

/-!
The binary COPY format: what the writer puts out, and what a server reads from it.
-/

namespace PgClient

open BigEndian

/-- `to_be_bytes` of a signed number. -/
def toBeBytes (width : Nat) (i : Int) : Bytes := bytes width (unsigned width i)

structure BinaryCopyWriter where
  buf : Bytes
  columnCount : Int16
  headerWritten : Bool
deriving DecidableEq, Repr

namespace BinaryCopyWriter

/-- `PGCOPY\n\xff\r\n\0`. -/
def signature : Bytes := [80, 71, 67, 79, 80, 89, 10, 255, 13, 10, 0]

def new (columnCount : Int16) : BinaryCopyWriter :=
  { buf := [], columnCount, headerWritten := false }

def header (w : BinaryCopyWriter) : Bytes × BinaryCopyWriter :=
  if w.headerWritten then ([], w)
  else
    let buf := signature ++ toBeBytes 4 0 ++ toBeBytes 4 0
    (buf, { w with buf, headerWritten := true })

def field : Option Bytes → Bytes
  | some data => toBeBytes 4 (Int32.ofNat data.length).toInt ++ data
  | none => toBeBytes 4 (-1)

/-- `none` is the panic of the assertion. -/
def writeRow (w : BinaryCopyWriter) (values : List (Option Bytes)) :
    Option (Bytes × BinaryCopyWriter) :=
  if Int16.ofNat values.length = w.columnCount then
    let row := toBeBytes 2 w.columnCount.toInt ++ values.flatMap field
    some (row, { w with buf := w.buf ++ row })
  else none

def trailer (w : BinaryCopyWriter) : Bytes × BinaryCopyWriter :=
  (toBeBytes 2 (-1), { w with buf := w.buf ++ toBeBytes 2 (-1) })

def intoInner (w : BinaryCopyWriter) : Bytes := w.buf

def buffer (w : BinaryCopyWriter) : Bytes := w.buf

def clear (w : BinaryCopyWriter) : BinaryCopyWriter := { w with buf := [], headerWritten := false }

/-- The calls before the trailer. -/
inductive Call where
  | header
  | row (values : List (Option Bytes))
deriving DecidableEq, Repr

/-- What the calls have returned, the header apart from the rows. -/
structure Produced where
  header : Bytes
  rows : Bytes
deriving DecidableEq, Repr

/-- Calls one after another; `none` if a row is not accepted. -/
def run (w : BinaryCopyWriter) : List Call → Option (Produced × BinaryCopyWriter)
  | [] => some (⟨[], []⟩, w)
  | .header :: calls => do
      let (produced, w') ← w.header.2.run calls
      return (⟨w.header.1 ++ produced.header, produced.rows⟩, w')
  | .row values :: calls => do
      let (row, w) ← w.writeRow values
      let (produced, w') ← w.run calls
      return (⟨produced.header, row ++ produced.rows⟩, w')

end BinaryCopyWriter

namespace BinaryCopy

def readInt (width : Nat) (input : Bytes) : Option (Int × Bytes) :=
  if width ≤ input.length then some (signed width (nat (input.take width)), input.drop width)
  else none

def readField (input : Bytes) : Option (Option Bytes × Bytes) := do
  let (length, rest) ← readInt 4 input
  if length = -1 then return (none, rest)
  else if length < 0 ∨ (rest.length : Int) < length then none
  else return (some (rest.take length.toNat), rest.drop length.toNat)

def readFields : Nat → Bytes → Option (List (Option Bytes) × Bytes)
  | 0, input => some ([], input)
  | count + 1, input => do
      let (value, rest) ← readField input
      let (values, rest) ← readFields count rest
      return (value :: values, rest)

/-- The tuples up to the trailer, behind which nothing may stand. -/
def readTuples : Nat → Bytes → Option (List (List (Option Bytes)))
  | 0, _ => none
  | fuel + 1, input => do
      let (count, rest) ← readInt 2 input
      if count = -1 then (if rest = [] then some [] else none)
      else if count < 0 then none
      else
        let (values, rest) ← readFields count.toNat rest
        let rows ← readTuples fuel rest
        return values :: rows

/-- What a server makes of binary COPY data: no critical flag may be set, the header
extension is skipped. Each tuple takes a byte at least. -/
def decode (input : Bytes) : Option (List (List (Option Bytes))) :=
  if input.take 11 = BinaryCopyWriter.signature then do
    let (flags, rest) ← readInt 4 (input.drop 11)
    let (extension, rest) ← readInt 4 rest
    if flags < 0 ∨ 65536 ≤ flags ∨ extension < 0 ∨ (rest.length : Int) < extension then none
    else readTuples input.length (rest.drop extension.toNat)
  else none

theorem readInt_toBeBytes {width : Nat} {i : Int} (hLow : -256 ^ width ≤ 2 * i)
    (hHigh : 2 * i < 256 ^ width) (rest : Bytes) :
    readInt width (toBeBytes width i ++ rest) = some (i, rest) := by
  have hLength : (toBeBytes width i).length = width := length_bytes ..
  rw [readInt, if_pos (by simp [hLength]), List.take_left' hLength, List.drop_left' hLength,
    toBeBytes, nat_bytes_of_lt (unsigned_lt ..), signed_unsigned hLow hHigh]

/-- A number that is read is one of its width. -/
theorem readInt_range {width : Nat} {input rest : Bytes} {i : Int}
    (h : readInt width input = some (i, rest)) : -256 ^ width ≤ 2 * i ∧ 2 * i < 256 ^ width := by
  simp only [readInt] at h
  split at h
  case isTrue hLength =>
      cases h
      apply signed_range
      have hNat := nat_lt (input.take width)
      rwa [List.length_take, Nat.min_eq_left hLength] at hNat
  case isFalse => cases h

/-- A length that a signed number of 32 bits can tell. -/
def FitsField (value : Option Bytes) : Prop := ∀ data, value = some data → data.length < 2 ^ 31

/-- A row whose number of columns and whose lengths the format can tell. -/
structure FitsRow (values : List (Option Bytes)) : Prop where
  columns : values.length < 2 ^ 15
  fields : ∀ value ∈ values, FitsField value

theorem readField_field {value : Option Bytes} (h : FitsField value) (rest : Bytes) :
    readField (BinaryCopyWriter.field value ++ rest) = some (value, rest) := by
  cases value with
  | none =>
      rw [readField, BinaryCopyWriter.field, readInt_toBeBytes (by decide) (by decide)]
      rfl
  | some data =>
      have hData := h data rfl
      have hLength : (Int32.ofNat data.length).toInt = data.length := by
        rw [Int32.toInt_ofNat', Int.bmod_eq_of_le (by simp [Int32.size])
          (by simp [Int32.size]; omega)]
      rw [readField, BinaryCopyWriter.field, hLength, List.append_assoc,
        readInt_toBeBytes (by omega) (by omega)]
      simp only [Option.bind_eq_bind, Option.bind_some]
      rw [if_neg (by omega), if_neg (by rw [List.length_append]; omega)]
      simp

theorem readFields_flatMap {values : List (Option Bytes)} (h : ∀ value ∈ values, FitsField value)
    (rest : Bytes) :
    readFields values.length (values.flatMap BinaryCopyWriter.field ++ rest) =
      some (values, rest) := by
  induction values with
  | nil => rfl
  | cons value values ih =>
      rw [List.flatMap_cons, List.append_assoc, List.length_cons, readFields,
        readField_field (h value List.mem_cons_self)]
      simp only [Option.bind_eq_bind, Option.bind_some]
      rw [ih fun v hMem => h v (List.mem_cons_of_mem _ hMem)]
      rfl

/-- A row as the writer puts it out. -/
def rowBytes (values : List (Option Bytes)) : Bytes :=
  toBeBytes 2 (Int16.ofNat values.length).toInt ++ values.flatMap BinaryCopyWriter.field

theorem readTuples_rows {rows : List (List (Option Bytes))} (h : ∀ row ∈ rows, FitsRow row)
    {fuel : Nat} (hFuel : rows.length < fuel) :
    readTuples fuel (rows.flatMap rowBytes ++ toBeBytes 2 (-1)) = some rows := by
  induction rows generalizing fuel with
  | nil =>
      obtain ⟨fuel, rfl⟩ := Nat.exists_eq_succ_of_ne_zero (Nat.ne_of_gt hFuel)
      have hRead := @readInt_toBeBytes 2 (-1) (by decide) (by decide) []
      rw [List.append_nil] at hRead
      rw [List.flatMap_nil, List.nil_append, readTuples, hRead]
      rfl
  | cons row rows ih =>
      obtain ⟨fuel, rfl⟩ := Nat.exists_eq_succ_of_ne_zero (Nat.ne_of_gt (Nat.zero_lt_of_lt hFuel))
      have hRow := h row List.mem_cons_self
      have hColumns := hRow.columns
      have hCount : (Int16.ofNat row.length).toInt = row.length := by
        rw [Int16.toInt_ofNat', Int.bmod_eq_of_le (by simp [Int16.size])
          (by simp [Int16.size]; omega)]
      rw [List.flatMap_cons, rowBytes, hCount, List.append_assoc, List.append_assoc, readTuples,
        readInt_toBeBytes (by omega) (by omega)]
      simp only [Option.bind_eq_bind, Option.bind_some]
      rw [if_neg (by omega), if_neg (by omega), Int.toNat_natCast, readFields_flatMap hRow.fields]
      simp only [Option.bind_some]
      rw [ih (fun r hMem => h r (List.mem_cons_of_mem _ hMem)) (Nat.lt_of_succ_lt_succ hFuel)]
      rfl

/-- What is read fits. -/
theorem fitsField_of_readField {input rest : Bytes} {value : Option Bytes}
    (h : readField input = some (value, rest)) : FitsField value := by
  simp only [readField, Option.bind_eq_bind, Option.bind_eq_some_iff] at h
  obtain ⟨⟨length, rest'⟩, hRead, h⟩ := h
  have hRange := readInt_range hRead
  intro data hValue
  split at h
  · cases h
    cases hValue
  · split at h
    · cases h
    · cases h
      cases hValue
      rw [List.length_take]
      omega

theorem fits_of_readFields {count : Nat} {input rest : Bytes} {values : List (Option Bytes)}
    (h : readFields count input = some (values, rest)) :
    values.length = count ∧ ∀ value ∈ values, FitsField value := by
  induction count generalizing input rest values with
  | zero =>
      cases h
      exact ⟨rfl, nofun⟩
  | succ count ih =>
      simp only [readFields, Option.bind_eq_bind, Option.bind_eq_some_iff] at h
      obtain ⟨⟨value, rest₁⟩, hField, ⟨values', rest₂⟩, hFields, h⟩ := h
      cases h
      obtain ⟨hLength, hFits⟩ := ih hFields
      refine ⟨by rw [List.length_cons, hLength], ?_⟩
      exact List.forall_mem_cons.mpr ⟨fitsField_of_readField hField, hFits⟩

theorem fits_of_readTuples {fuel : Nat} {input : Bytes} {rows : List (List (Option Bytes))}
    (h : readTuples fuel input = some rows) : ∀ row ∈ rows, FitsRow row := by
  induction fuel generalizing input rows with
  | zero => cases h
  | succ fuel ih =>
      simp only [readTuples, Option.bind_eq_bind, Option.bind_eq_some_iff] at h
      obtain ⟨⟨count, rest⟩, hRead, h⟩ := h
      have hRange := readInt_range hRead
      split at h
      · split at h <;> cases h
        exact nofun
      · split at h
        · cases h
        · simp only [Option.bind_eq_some_iff] at h
          obtain ⟨⟨values, rest'⟩, hFields, rows', hRows, h⟩ := h
          cases h
          obtain ⟨hLength, hFits⟩ := fits_of_readFields hFields
          have hLength : values.length = count.toNat := hLength
          have hFit : FitsRow values := ⟨by omega, hFits⟩
          exact List.forall_mem_cons.mpr ⟨hFit, ih hRows⟩

theorem fits_of_decode {input : Bytes} {rows : List (List (Option Bytes))}
    (h : decode input = some rows) : ∀ row ∈ rows, FitsRow row := by
  simp only [decode] at h
  split at h
  · simp only [Option.bind_eq_bind, Option.bind_eq_some_iff] at h
    obtain ⟨_, _, _, _, h⟩ := h
    split at h
    · cases h
    · exact fits_of_readTuples h
  · cases h

/-- The header that the writer puts out. -/
def headerBytes : Bytes := BinaryCopyWriter.signature ++ toBeBytes 4 0 ++ toBeBytes 4 0

theorem length_le_rows (rows : List (List (Option Bytes))) :
    rows.length ≤ (rows.flatMap rowBytes).length := by
  induction rows with
  | nil => exact Nat.le_refl _
  | cons row rows ih =>
      have hCount : (toBeBytes 2 (Int16.ofNat row.length).toInt).length = 2 := length_bytes ..
      simp only [List.flatMap_cons, List.length_append, List.length_cons, rowBytes, hCount]
      omega

theorem decode_rows {rows : List (List (Option Bytes))} (h : ∀ row ∈ rows, FitsRow row) :
    decode (headerBytes ++ rows.flatMap rowBytes ++ toBeBytes 2 (-1)) = some rows := by
  have hFuel := length_le_rows rows
  have hZero : ∀ rest, readInt 4 (toBeBytes 4 0 ++ rest) = some (0, rest) :=
    readInt_toBeBytes (by decide) (by decide)
  have hInput : headerBytes ++ rows.flatMap rowBytes ++ toBeBytes 2 (-1) =
      BinaryCopyWriter.signature ++ (toBeBytes 4 0 ++ (toBeBytes 4 0 ++
        (rows.flatMap rowBytes ++ toBeBytes 2 (-1)))) := by
    simp [headerBytes]
  have hSignature : BinaryCopyWriter.signature.length = 11 := rfl
  rw [decode, hInput, List.take_left' hSignature, if_pos rfl, List.drop_left' hSignature, hZero]
  simp only [Option.bind_eq_bind, Option.bind_some]
  rw [hZero]
  simp only [Option.bind_some]
  rw [if_neg (by omega)]
  refine readTuples_rows h ?_
  simp only [List.length_append, hSignature]
  omega

end BinaryCopy

namespace BinaryCopyWriter

open BinaryCopy

/-- The rows among the calls. -/
def rowsOf : List Call → List (List (Option Bytes))
  | [] => []
  | .header :: calls => rowsOf calls
  | .row values :: calls => values :: rowsOf calls

/-- The rows behind the first header. -/
def rowsAfterHeader : List Call → List (List (Option Bytes))
  | [] => []
  | .header :: calls => rowsOf calls
  | .row _ :: calls => rowsAfterHeader calls

theorem writeRow_eq {w w' : BinaryCopyWriter} {values : List (Option Bytes)} {row : Bytes}
    (h : w.writeRow values = some (row, w')) :
    row = rowBytes values ∧ w' = { w with buf := w.buf ++ rowBytes values } := by
  simp only [writeRow] at h
  split at h
  case isTrue hCount =>
      cases h
      rw [rowBytes, hCount]
      exact ⟨rfl, rfl⟩
  case isFalse => cases h

/-- Behind the header all rows are appended. -/
theorem run_written {w w' : BinaryCopyWriter} {calls : List Call} {produced : Produced}
    (hWritten : w.headerWritten) (h : w.run calls = some (produced, w')) :
    produced = ⟨[], (rowsOf calls).flatMap rowBytes⟩ ∧
      w'.buf = w.buf ++ (rowsOf calls).flatMap rowBytes := by
  induction calls generalizing w produced with
  | nil =>
      cases h
      exact ⟨rfl, (List.append_nil _).symm⟩
  | cons call calls ih =>
      cases call with
      | header =>
          have hHeader : w.header = ([], w) := by rw [header, if_pos hWritten]
          simp only [run, hHeader, Option.bind_eq_bind, Option.bind_eq_some_iff] at h
          obtain ⟨⟨produced', w''⟩, hRun, h⟩ := h
          cases h
          obtain ⟨rfl, hBuf⟩ := ih hWritten hRun
          exact ⟨rfl, hBuf⟩
      | row values =>
          simp only [run, Option.bind_eq_bind, Option.bind_eq_some_iff] at h
          obtain ⟨⟨row, w₁⟩, hRow, ⟨produced', w''⟩, hRun, h⟩ := h
          cases h
          obtain ⟨rfl, rfl⟩ := writeRow_eq hRow
          obtain ⟨rfl, hBuf⟩ := ih (w := { w with buf := w.buf ++ rowBytes values }) hWritten hRun
          refine ⟨by simp [rowsOf], ?_⟩
          rw [hBuf, List.append_assoc, rowsOf, List.flatMap_cons]

/-- The first header starts the buffer anew. -/
theorem run_unwritten {w w' : BinaryCopyWriter} {calls : List Call} {produced : Produced}
    (hUnwritten : w.headerWritten = false) (hHeader : .header ∈ calls)
    (h : w.run calls = some (produced, w')) :
    produced = ⟨headerBytes, (rowsOf calls).flatMap rowBytes⟩ ∧
      w'.buf = headerBytes ++ (rowsAfterHeader calls).flatMap rowBytes := by
  induction calls generalizing w produced with
  | nil => cases hHeader
  | cons call calls ih =>
      cases call with
      | header =>
          have hFirst : w.header = (headerBytes,
            { w with buf := headerBytes, headerWritten := true }) := by
            rw [header, if_neg (by simp [hUnwritten])]
            rfl
          simp only [run, hFirst, Option.bind_eq_bind, Option.bind_eq_some_iff] at h
          obtain ⟨⟨produced', w''⟩, hRun, h⟩ := h
          cases h
          obtain ⟨rfl, hBuf⟩ := run_written rfl hRun
          exact ⟨by simp [rowsOf], hBuf⟩
      | row values =>
          simp only [run, Option.bind_eq_bind, Option.bind_eq_some_iff] at h
          obtain ⟨⟨row, w₁⟩, hRow, ⟨produced', w''⟩, hRun, h⟩ := h
          cases h
          obtain ⟨rfl, rfl⟩ := writeRow_eq hRow
          have hLater : .header ∈ calls := by simpa using hHeader
          obtain ⟨rfl, hBuf⟩ :=
            ih (w := { w with buf := w.buf ++ rowBytes values }) hUnwritten hLater hRun
          exact ⟨by simp [rowsOf], hBuf⟩

theorem rowsAfterHeader_suffix (calls : List Call) : rowsAfterHeader calls <:+ rowsOf calls := by
  induction calls with
  | nil => exact List.suffix_refl _
  | cons call calls ih =>
      cases call with
      | header => exact List.suffix_refl _
      | row values => exact ih.trans (List.suffix_cons ..)

/-- No row is before the header just if the first call is the one of the header. -/
theorem rowsAfterHeader_eq_iff {calls : List Call} (hHeader : .header ∈ calls) :
    rowsAfterHeader calls = rowsOf calls ↔ calls.head? = some .header := by
  cases calls with
  | nil => cases hHeader
  | cons call calls =>
      cases call with
      | header => exact iff_of_true rfl rfl
      | row values =>
          refine iff_of_false ?_ (by simp)
          intro hEq
          have hLength := congrArg List.length hEq
          have hLe := (rowsAfterHeader_suffix calls).length_le
          simp only [rowsAfterHeader, rowsOf, List.length_cons] at hLength
          omega

/-- What is produced with the header in front, and what is in the buffer, is read back as
the rows that were written just if the header came first and every row fits. -/
theorem roundTrip_iff {columnCount : Int16} {calls : List Call} (hHeader : .header ∈ calls)
    {produced : Produced} {w : BinaryCopyWriter}
    (hRun : (new columnCount).run calls = some (produced, w)) :
    (decode (produced.header ++ produced.rows ++ w.trailer.1) = some (rowsOf calls) ∧
        decode w.trailer.2.buffer = some (rowsOf calls) ∧
        decode w.trailer.2.intoInner = some (rowsOf calls)) ↔
      calls.head? = some .header ∧ ∀ row ∈ rowsOf calls, FitsRow row := by
  obtain ⟨rfl, hBuf⟩ := run_unwritten rfl hHeader hRun
  have hBuffer : w.trailer.2.buffer =
      headerBytes ++ (rowsAfterHeader calls).flatMap rowBytes ++ toBeBytes 2 (-1) := by
    rw [buffer, trailer, hBuf]
  have hInner : w.trailer.2.intoInner = w.trailer.2.buffer := rfl
  rw [hInner, hBuffer, ← rowsAfterHeader_eq_iff hHeader]
  constructor
  · rintro ⟨hProduced, hKept, _⟩
    have hFits := fits_of_decode hProduced
    refine ⟨?_, hFits⟩
    have hLater : ∀ row ∈ rowsAfterHeader calls, FitsRow row :=
      fun row hMem => hFits row ((rowsAfterHeader_suffix calls).subset hMem)
    rw [decode_rows hLater] at hKept
    exact Option.some.inj hKept
  · rintro ⟨hFirst, hFits⟩
    rw [hFirst]
    exact ⟨decode_rows hFits, decode_rows hFits, decode_rows hFits⟩

/-- Two rows, one with a NULL, behind the header. -/
theorem roundTrip_rows :
    decode (((new 2).run [.header, .row [some [52, 50], none], .row [some [], some [49]]]).get
      (by decide)).2.trailer.2.buffer = some [[some [52, 50], none], [some [], some [49]]] := by
  have hRun : (new 2).run [.header, .row [some [52, 50], none], .row [some [], some [49]]] =
      some (((new 2).run [.header, .row [some [52, 50], none], .row [some [], some [49]]]).get
        (by decide)) := (Option.some_get _).symm
  refine ((roundTrip_iff (by decide) hRun).mpr ⟨rfl, ?_⟩).2.1
  have hData : ∀ data : Bytes, data.length < 3 → FitsField (some data) := by
    intro data hLength data' hEq
    cases hEq
    omega
  intro row hMem
  simp only [rowsOf, List.mem_cons, List.not_mem_nil, or_false] at hMem
  obtain rfl | rfl := hMem
  · refine ⟨by decide, List.forall_mem_cons.mpr ⟨hData _ (by decide), ?_⟩⟩
    exact List.forall_mem_cons.mpr ⟨nofun, nofun⟩
  · refine ⟨by decide, List.forall_mem_cons.mpr ⟨hData _ (by decide), ?_⟩⟩
    exact List.forall_mem_cons.mpr ⟨hData _ (by decide), nofun⟩

/-- A row that was written before the header is not in the buffer. -/
theorem not_roundTrip :
    ¬ ∀ (columnCount : Int16) (calls : List Call) (produced : Produced) (w : BinaryCopyWriter),
      .header ∈ calls → (new columnCount).run calls = some (produced, w) →
      decode w.trailer.2.buffer = some (rowsOf calls) := by
  intro h
  have hBuffer := h 1 [.row [none], .header] _ _ (by decide) rfl
  exact absurd hBuffer (by decide)

end BinaryCopyWriter
end PgClient
