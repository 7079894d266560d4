import PgClient.Transport.ByteBuffer

/-!
What a transport promises to the buffers above it, in terms of the bytes that it hands
out and takes, and the mock transport, which keeps these promises.
-/

namespace PgClient.Transport.ByteBuffer

variable {ρ T : Type}

/-- What a transport has handed out and taken so far, and whether a write to it has failed. -/
structure Ledger (T : Type) where
  given : T → Bytes
  received : T → Bytes
  writeFailed : T → Bool

namespace Ledger

/-- Between two states of a transport these bytes were handed out and taken. -/
structure Moved (ledger : Ledger T) (gave took : Bytes) (t t' : T) : Prop where
  given : ledger.given t' = ledger.given t ++ gave
  received : ledger.received t' = ledger.received t ++ took
  writeFailed : ledger.writeFailed t' = ledger.writeFailed t

/-- A transport that does what its trait promises: a read hands out at most the bytes
there is room for, a write takes all bytes, and the other calls move none. A write that
has not ended may have taken some bytes, and of one that failed nothing is said. -/
structure Lawful (ledger : Ledger T) (ops : AsyncTransport ρ T) (r : ρ) : Prop where
  read_ok {n : Nat} {t t' : T} {data : Bytes} (hRoom : 0 < n)
    (h : ops.read n r t = (.ok data, t')) : data.length ≤ n ∧ ledger.Moved data [] t t'
  read_err {n : Nat} {t t' : T} {e : TransportError} (hRoom : 0 < n)
    (h : ops.read n r t = (.err e, t')) : ledger.Moved [] [] t t'
  read_pending {n : Nat} {t t' : T} (hRoom : 0 < n)
    (h : ops.read n r t = (.pending, t')) : ledger.Moved [] [] t t'
  writeAll_ok {buf : Bytes} {t t' : T} (h : ops.writeAll buf r t = (.ok (), t')) :
    ledger.Moved [] buf t t'
  writeAll_err {buf : Bytes} {t t' : T} {e : TransportError}
    (h : ops.writeAll buf r t = (.err e, t')) :
    ledger.given t' = ledger.given t ∧ ledger.writeFailed t' = true
  writeAll_pending {buf : Bytes} {t t' : T} (h : ops.writeAll buf r t = (.pending, t')) :
    ∃ part rest, buf = part ++ rest ∧ ledger.Moved [] part t t'
  flush (t : T) : ledger.Moved [] [] t (ops.flush r t).2
  shutdown (t : T) : ledger.Moved [] [] t (ops.shutdown r t).2

end Ledger

/-- The transport of the tests. `refused` is not part of the source: it records that a
write has failed. -/
structure MockTransport where
  readData : Bytes
  readPos : Nat
  maxReadChunk : Nat
  written : Bytes
  closed : Bool
  flushed : Bool
  shutdownCalled : Bool
  refused : Bool
deriving DecidableEq, Repr

namespace MockTransport

def new (readData : Bytes) : MockTransport where
  readData
  readPos := 0
  maxReadChunk := 0
  written := []
  closed := false
  flushed := false
  shutdownCalled := false
  refused := false

def withMaxReadChunk (chunk : Nat) (t : MockTransport) : MockTransport :=
  { t with maxReadChunk := chunk }

def toRead (bufLen : Nat) (t : MockTransport) : Nat :=
  let remaining := t.readData.drop t.readPos
  let toRead := min remaining.length bufLen
  if 0 < t.maxReadChunk then min toRead t.maxReadChunk else toRead

def read (bufLen : Nat) : Async ρ MockTransport TransportError Bytes := fun _ t =>
  if t.closed then (.ok [], t)
  else if t.readData.length ≤ t.readPos then (.ok [], t)
  else
    (.ok ((t.readData.drop t.readPos).take (t.toRead bufLen)),
      { t with readPos := t.readPos + t.toRead bufLen })

def writeAll (buf : Bytes) : Async ρ MockTransport TransportError Unit := fun _ t =>
  if t.closed then (.err .connectionReset, { t with refused := true })
  else (.ok (), { t with written := t.written ++ buf })

def transport : AsyncTransport ρ MockTransport where
  read := read
  writeAll := writeAll
  flush := .modify fun t => { t with flushed := true }
  shutdown := .modify fun t => { t with shutdownCalled := true, closed := true }

def ledger : Ledger MockTransport where
  given t := t.readData.take t.readPos
  received := written
  writeFailed := refused

theorem moved_self (t : MockTransport) : ledger.Moved [] [] t t where
  given := (List.append_nil _).symm
  received := (List.append_nil _).symm
  writeFailed := rfl

theorem toRead_le (bufLen : Nat) (t : MockTransport) : t.toRead bufLen ≤ bufLen := by
  have hBuf := Nat.min_le_right (t.readData.drop t.readPos).length bufLen
  simp only [toRead]
  split
  case isTrue => exact Nat.le_trans (Nat.min_le_left _ _) hBuf
  case isFalse => exact hBuf

theorem read_cases (bufLen : Nat) (r : ρ) (t : MockTransport) :
    read bufLen r t = (.ok [], t) ∨
      read bufLen r t = (.ok ((t.readData.drop t.readPos).take (t.toRead bufLen)),
        { t with readPos := t.readPos + t.toRead bufLen }) := by
  unfold read
  split
  case isTrue => exact .inl rfl
  case isFalse =>
      split
      case isTrue => exact .inl rfl
      case isFalse => exact .inr rfl

theorem writeAll_cases (buf : Bytes) (r : ρ) (t : MockTransport) :
    writeAll buf r t = (.err .connectionReset, { t with refused := true }) ∨
      writeAll buf r t = (.ok (), { t with written := t.written ++ buf }) := by
  unfold writeAll
  split
  case isTrue => exact .inl rfl
  case isFalse => exact .inr rfl

theorem lawful (r : ρ) : ledger.Lawful transport r where
  read_ok {bufLen t t' data} _ h := by
    obtain hEnd | hData := read_cases bufLen r t
    · cases hEnd.symm.trans h
      exact ⟨Nat.zero_le _, moved_self t⟩
    · cases hData.symm.trans h
      refine ⟨Nat.le_trans (List.length_take_le _ _) (toRead_le bufLen t), ?_, ?_, rfl⟩
      · exact List.take_add
      · exact (List.append_nil _).symm
  read_err {bufLen t t' e} _ h := by
    obtain hEnd | hData := read_cases bufLen r t
    · cases hEnd.symm.trans h
    · cases hData.symm.trans h
  read_pending {bufLen t t'} _ h := by
    obtain hEnd | hData := read_cases bufLen r t
    · cases hEnd.symm.trans h
    · cases hData.symm.trans h
  writeAll_ok {buf t t'} h := by
    obtain hRefused | hTaken := writeAll_cases buf r t
    · cases hRefused.symm.trans h
    · cases hTaken.symm.trans h
      exact ⟨(List.append_nil _).symm, rfl, rfl⟩
  writeAll_err {buf t t' e} h := by
    obtain hRefused | hTaken := writeAll_cases buf r t
    · cases hRefused.symm.trans h
      exact ⟨rfl, rfl⟩
    · cases hTaken.symm.trans h
  writeAll_pending {buf t t'} h := by
    obtain hRefused | hTaken := writeAll_cases buf r t
    · cases hRefused.symm.trans h
    · cases hTaken.symm.trans h
  flush t := ⟨(List.append_nil _).symm, (List.append_nil _).symm, rfl⟩
  shutdown t := ⟨(List.append_nil _).symm, (List.append_nil _).symm, rfl⟩

end MockTransport

end PgClient.Transport.ByteBuffer
