import PgClient.Library.Maintains
import PgClient.Transport.Mock
import PgClient.Transport.ReadBuffer

/-!
Whatever calls are made, the buffered transport is a queue in both directions: what it
has delivered is what the transport below has given, up to the bytes still buffered, and
what the transport below has received is what was written, up to the bytes still buffered.
-/

namespace PgClient.Transport.ByteBuffer

open Async

variable {ρ T α : Type}

open ByteBuffer.BufferedTransport

/-- A caller and a buffered transport since the transport below was in state `start`. -/
structure Fifo (ledger : Ledger T) (start : T) (caller : Caller) (t : BufferedTransport T) :
    Prop where
  valid : t.Valid
  given : ledger.given t.inner = ledger.given start ++ caller.delivered ++ t.available
  received : ledger.writeFailed t.inner = false →
    ledger.received start ++ caller.written = ledger.received t.inner ++ t.writeBuf

/-- What is left of it while a call waits: some bytes of the write buffer may be out. -/
structure Waiting (ledger : Ledger T) (start : T) (caller : Caller) (t : BufferedTransport T) :
    Prop where
  valid : t.Valid
  given : ledger.given t.inner = ledger.given start ++ caller.delivered ++ t.available
  received : ledger.writeFailed t.inner = false →
    ledger.received t.inner <+: ledger.received start ++ caller.written

section Fifo

variable {ledger : Ledger T} {start : T} {caller : Caller} {t : BufferedTransport T}

theorem fifo_withCapacity (ledger : Ledger T) (inner : T) (readCap writeCap : Nat) :
    Fifo ledger inner ⟨[], []⟩ (withCapacity inner readCap writeCap) where
  valid := valid_withCapacity inner readCap writeCap
  given := by simp [withCapacity, available]
  received _ := rfl

theorem Fifo.waiting (h : Fifo ledger start caller t) : Waiting ledger start caller t where
  valid := h.valid
  given := h.given
  received hWrites := ⟨t.writeBuf, (h.received hWrites).symm⟩

/-- Another layout of the same bytes. -/
theorem Fifo.relaid (h : Fifo ledger start caller t) {t' : BufferedTransport T}
    (hValid : t'.Valid) (hInner : t'.inner = t.inner) (hAvailable : t'.available = t.available)
    (hWriteBuf : t'.writeBuf = t.writeBuf) : Fifo ledger start caller t' where
  valid := hValid
  given := by
    rw [hInner, hAvailable]
    exact h.given
  received := by
    rw [hInner, hWriteBuf]
    exact h.received

theorem Fifo.compactRead (h : Fifo ledger start caller t) :
    Fifo ledger start caller t.compactRead :=
  h.relaid h.valid.compactRead (inner_compactRead t) h.valid.available_compactRead
    (writeBuf_compactRead t)

theorem Fifo.ensureReadCapacity (h : Fifo ledger start caller t) (minRemaining : Nat) :
    Fifo ledger start caller (t.ensureReadCapacity minRemaining) :=
  h.relaid (h.valid.ensureReadCapacity minRemaining) (inner_ensureReadCapacity minRemaining t)
    (h.valid.available_ensureReadCapacity minRemaining) (writeBuf_ensureReadCapacity minRemaining t)

theorem Fifo.compactFragmented (h : Fifo ledger start caller t) :
    Fifo ledger start caller t.compactFragmented := by
  obtain hSame | hCompact := compactFragmented_cases t
  · rw [hSame]
    exact h
  · rw [hCompact]
    exact h.compactRead

/-- The transport below goes on and moves no bytes. -/
theorem Fifo.inner (h : Fifo ledger start caller t) {inner : T}
    (hMoved : ledger.Moved [] [] t.inner inner) :
    Fifo ledger start caller { t with inner } where
  valid := ⟨h.valid.readPos_le, h.valid.readLen_le⟩
  given := by
    rw [hMoved.given, List.append_nil]
    exact h.given
  received := by
    rw [hMoved.received, hMoved.writeFailed, List.append_nil]
    exact h.received

/-- The transport below hands out bytes that there is room for. -/
theorem Fifo.receive (h : Fifo ledger start caller t) {inner : T} {data : Bytes}
    (hRoom : data.length ≤ t.readBuf.length - t.readLen)
    (hMoved : ledger.Moved data [] t.inner inner) :
    Fifo ledger start caller (BufferedTransport.receive data { t with inner }) := by
  have hValid : ({ t with inner } : BufferedTransport T).Valid :=
    ⟨h.valid.readPos_le, h.valid.readLen_le⟩
  refine ⟨hValid.receive hRoom, ?_, ?_⟩
  · rw [hValid.available_receive, ← List.append_assoc]
    exact hMoved.given.trans (congrArg (· ++ data) h.given)
  · intro hWrites
    have hReceived := hMoved.received
    rw [List.append_nil] at hReceived
    have hBefore := h.received (hMoved.writeFailed ▸ hWrites)
    exact hBefore.trans (congrArg (· ++ t.writeBuf) hReceived.symm)

/-- The first bytes buffered go to the caller. -/
theorem Fifo.copyOut {filled : Bytes}
    (h : Fifo ledger start { caller with delivered := caller.delivered ++ filled } t) {n : Nat}
    (hn : n ≤ t.available.length) :
    Fifo ledger start
      { caller with delivered := caller.delivered ++ (BufferedTransport.copyOut n (filled, t)).1 }
      (BufferedTransport.copyOut n (filled, t)).2 where
  valid := h.valid.advance hn
  given := by
    have hParts := List.take_append_drop n t.available
    simp only [BufferedTransport.copyOut, available_advance]
    rw [List.append_assoc, List.append_assoc, List.append_assoc, hParts]
    simpa [List.append_assoc] using h.given
  received := h.received

end Fifo

section Reads

variable {ledger : Ledger T} {ops : AsyncTransport ρ T} {r : ρ} {start : T} {caller : Caller}

/-- `Fifo` in the middle of a call, when a part of the caller's buffer is filled. -/
def Filling (ledger : Ledger T) (start : T) (caller : Caller) (s : Bytes × BufferedTransport T) :
    Prop :=
  Fifo ledger start { caller with delivered := caller.delivered ++ s.1 } s.2

/-- The transport below is never asked for less than one byte, so that no bytes mean its end. -/
theorem keeps_refill (hLaws : ledger.Lawful ops r) {minRemaining : Nat}
    (hRoom : 0 < minRemaining) : Keeps r (Fifo ledger start caller) (refill ops minRemaining) := by
  intro t h
  have hReady : Fifo ledger start caller (t.compactRead.ensureReadCapacity minRemaining) :=
    h.compactRead.ensureReadCapacity minRemaining
  have hOffered := le_room_ensureReadCapacity minRemaining t.compactRead
  rw [← readLen_ensureReadCapacity minRemaining t.compactRead] at hOffered
  have hSize := Nat.lt_of_lt_of_le hRoom hOffered
  rw [refill, bind_apply, modify_apply, andThen_ok, bind_apply, get_apply, andThen_ok, bind_apply]
  cases hRead : ops.read _ r (t.compactRead.ensureReadCapacity minRemaining).inner with
  | mk outcome inner =>
      rw [below_of_eq hRead]
      cases outcome with
      | ok data =>
          obtain ⟨hLength, hMoved⟩ := hLaws.read_ok hSize hRead
          exact hReady.receive hLength hMoved
      | err e => exact hReady.inner (hLaws.read_err hSize hRead)
      | pending => exact hReady.inner (hLaws.read_pending hSize hRead)

theorem keeps_filling_refill (hLaws : ledger.Lawful ops r) {minRemaining : Nat}
    (hRoom : 0 < minRemaining) :
    Keeps r (Filling ledger start caller) (onSnd (refill ops minRemaining)) :=
  keeps_onSnd fun _ t h => keeps_refill hLaws hRoom t h

theorem keeps_read (hLaws : ledger.Lawful ops r) (bufLen : Nat) :
    Keeps r (Filling ledger start caller) (BufferedTransport.read ops bufLen) := by
  intro s h
  unfold BufferedTransport.read
  rw [bind_apply, get_apply, andThen_ok]
  split
  case isTrue =>
      exact (h.copyOut (Nat.min_le_right bufLen s.2.available.length)).compactFragmented
  case isFalse =>
      refine keeps_bind (keeps_filling_refill hLaws (by decide)) (fun data => ?_) s h
      refine keeps_ite (keeps_pure 0) ?_
      intro s' h'
      exact h'.copyOut (Nat.min_le_right bufLen s'.2.available.length)

theorem keeps_readExactRound (hLaws : ledger.Lawful ops r) {bufLen : Nat}
    {s : Bytes × BufferedTransport T} (hWanted : s.1.length < bufLen)
    (h : Filling ledger start caller s) :
    Filling ledger start caller (readExactRound ops bufLen r s).2 := by
  unfold readExactRound
  rw [bind_apply, get_apply, andThen_ok]
  split
  case isTrue => exact h.copyOut (Nat.min_le_right _ s.2.available.length)
  case isFalse =>
      have hRoom : 0 < bufLen - s.1.length := Nat.sub_pos_of_lt hWanted
      exact keeps_bind (keeps_filling_refill hLaws hRoom)
        (fun data => keeps_failIf (data = []) .unexpectedEof) s h

theorem keeps_readExactLoop (hLaws : ledger.Lawful ops r) (bufLen rounds : Nat) :
    Keeps r (Filling ledger start caller) (readExactLoop ops bufLen rounds) := by
  induction rounds with
  | zero => exact keeps_wait
  | succ rounds ih =>
      intro s h
      unfold readExactLoop
      rw [bind_apply, get_apply, andThen_ok]
      by_cases hWanted : s.1.length < bufLen
      · rw [doIf_pos hWanted]
        have hRound := keeps_readExactRound hLaws hWanted h
        rw [bind_apply]
        revert hRound
        match readExactRound ops bufLen r s with
        | (.ok (), s') => exact ih s'
        | (.err _, _) => exact id
        | (.pending, _) => exact id
      · rw [doIf_neg hWanted]
        exact h

theorem keeps_readExact (hLaws : ledger.Lawful ops r) (bufLen : Nat) :
    Keeps r (Filling ledger start caller) (readExact ops bufLen) :=
  keeps_bind (keeps_readExactLoop hLaws bufLen _)
    fun _ => keeps_modify fun _ h => h.compactFragmented

theorem keeps_reading {x : Async ρ (Bytes × BufferedTransport T) TransportError α}
    (hx : ∀ caller, Keeps r (Filling ledger start caller) x) :
    Keeps r (fun s => Fifo ledger start s.1 s.2) (Call.reading x) := by
  intro (caller, t) h
  refine hx caller ([], t) ?_
  show Fifo ledger start { caller with delivered := caller.delivered ++ [] } t
  rw [List.append_nil]
  exact h

end Reads

section Writes

variable {ledger : Ledger T} {ops : AsyncTransport ρ T} {r : ρ} {start : T} {caller : Caller}

theorem maintains_below {x : Async ρ T TransportError Unit}
    (hx : ∀ t, ledger.Moved [] [] t (x r t).2) :
    Maintains r (Fifo ledger start caller) (Waiting ledger start caller) (below x) :=
  Keeps.maintains (fun t h => h.inner (hx t.inner)) fun _ h => h.waiting

/-- The write buffer is emptied only when the transport below has taken all of it. -/
theorem maintains_flushWrite (hLaws : ledger.Lawful ops r) :
    Maintains r (Fifo ledger start caller) (Waiting ledger start caller)
      (BufferedTransport.flushWrite ops) := by
  intro t h
  unfold BufferedTransport.flushWrite
  rw [bind_apply, get_apply, andThen_ok]
  by_cases hEmpty : t.writeBuf ≠ []
  · rw [doIf_pos hEmpty, bind_apply]
    cases hWrite : ops.writeAll t.writeBuf r t.inner with
    | mk outcome inner =>
        rw [below_of_eq hWrite]
        cases outcome with
        | ok done =>
            have hMoved := hLaws.writeAll_ok hWrite
            refine ⟨⟨h.valid.readPos_le, h.valid.readLen_le⟩, ?_, ?_⟩
            · rw [hMoved.given, List.append_nil]
              exact h.given
            · intro hWrites
              have hBefore := h.received (hMoved.writeFailed ▸ hWrites)
              rw [hBefore, hMoved.received, List.append_nil]
        | err e =>
            obtain ⟨hGiven, hFailed⟩ := hLaws.writeAll_err hWrite
            refine ⟨⟨h.valid.readPos_le, h.valid.readLen_le⟩, ?_, ?_⟩
            · rw [hGiven]
              exact h.given
            · intro hWrites
              rw [hFailed] at hWrites
              cases hWrites
        | pending =>
            obtain ⟨part, rest, hParts, hMoved⟩ := hLaws.writeAll_pending hWrite
            refine ⟨⟨h.valid.readPos_le, h.valid.readLen_le⟩, ?_, ?_⟩
            · rw [hMoved.given, List.append_nil]
              exact h.given
            · intro hWrites
              have hBefore := h.received (hMoved.writeFailed ▸ hWrites)
              refine ⟨rest, ?_⟩
              rw [hBefore, hMoved.received, hParts, List.append_assoc]
  · rw [doIf_neg hEmpty]
    exact h

theorem maintains_flush (hLaws : ledger.Lawful ops r) :
    Maintains r (Fifo ledger start caller) (Waiting ledger start caller)
      (BufferedTransport.flush ops) :=
  maintains_bind (maintains_flushWrite hLaws) fun _ => maintains_below hLaws.flush

theorem maintains_shutdown (hLaws : ledger.Lawful ops r) :
    Maintains r (Fifo ledger start caller) (Waiting ledger start caller)
      (BufferedTransport.shutdown ops) :=
  maintains_bind (maintains_flushWrite hLaws) fun _ => maintains_below hLaws.shutdown

/-- After a flush nothing is left in the write buffer. -/
theorem writeBuf_flushWrite {t t' : BufferedTransport T}
    (h : BufferedTransport.flushWrite ops r t = (.ok (), t')) : t'.writeBuf = [] := by
  unfold BufferedTransport.flushWrite at h
  rw [bind_apply, get_apply, andThen_ok] at h
  by_cases hEmpty : t.writeBuf ≠ []
  · rw [doIf_pos hEmpty] at h
    obtain ⟨_, _, _, hClear⟩ := ok_of_bind h
    cases hClear
    rfl
  · rw [doIf_neg hEmpty] at h
    cases h
    exact not_not.mp hEmpty

theorem writeBuf_flush {t t' : BufferedTransport T}
    (h : BufferedTransport.flush ops r t = (.ok (), t')) : t'.writeBuf = [] := by
  obtain ⟨_, t₁, hWrite, hFlush⟩ := ok_of_bind h
  have hEmpty := writeBuf_flushWrite hWrite
  rw [below, Prod.mk.injEq] at hFlush
  obtain ⟨-, rfl⟩ := hFlush
  exact hEmpty

/-- `Fifo` after the caller has given more bytes than the write buffer has. -/
theorem maintains_writeAll (hLaws : ledger.Lawful ops r) (buf : Bytes) {t : BufferedTransport T}
    (h : Fifo ledger start caller t) :
    Maintained (Fifo ledger start { caller with written := caller.written ++ buf })
      (Waiting ledger start { caller with written := caller.written ++ buf })
      (BufferedTransport.writeAll ops buf r t) := by
  have hBuffered : Fifo ledger start { caller with written := caller.written ++ buf }
      { t with writeBuf := t.writeBuf ++ buf } := by
    refine ⟨⟨h.valid.readPos_le, h.valid.readLen_le⟩, h.given, ?_⟩
    intro hWrites
    have hBefore := h.received hWrites
    simp only [← List.append_assoc, hBefore]
  exact maintains_doIf _ (fun _ => maintains_flushWrite hLaws) _ hBuffered

end Writes

section Calls

variable {ledger : Ledger T} {ops : AsyncTransport ρ T} {r : ρ} {start : T}

theorem maintains_writing {x : Async ρ (BufferedTransport T) TransportError α} {buf : Bytes}
    (hx : ∀ caller t, Fifo ledger start caller t →
      Maintained (Fifo ledger start { caller with written := caller.written ++ buf })
        (Waiting ledger start { caller with written := caller.written ++ buf }) (x r t)) :
    Maintains r (fun s => Fifo ledger start s.1 s.2) (fun s => Waiting ledger start s.1 s.2)
      (Call.writing buf x) := by
  intro (caller, t) h
  unfold Call.writing
  rw [bind_apply, modify_apply, andThen_ok]
  exact .bind_pure _ (.onSnd (hx caller t h))

/-- One call, whatever comes of it. -/
theorem maintains_run (hLaws : ledger.Lawful ops r) (call : Call) :
    Maintains r (fun s => Fifo ledger start s.1 s.2) (fun s => Waiting ledger start s.1 s.2)
      (call.run ops) := by
  cases call with
  | read bufLen =>
      exact (keeps_reading fun _ => keeps_read hLaws bufLen).maintains fun _ h => h.waiting
  | readExact bufLen =>
      exact (keeps_reading fun _ => keeps_readExact hLaws bufLen).maintains fun _ h => h.waiting
  | write buf =>
      exact maintains_writing fun _ _ h => .bind_pure _ (maintains_writeAll hLaws buf h)
  | writeAll buf => exact maintains_writing fun _ _ h => maintains_writeAll hLaws buf h
  | flush => exact fun (_, t) h => .onSnd (maintains_flush hLaws t h)
  | shutdown => exact fun (_, t) h => .onSnd (maintains_shutdown hLaws t h)

theorem maintains_runAll (hLaws : ledger.Lawful ops r) (calls : List Call) :
    Maintains r (fun s => Fifo ledger start s.1 s.2) (fun s => Waiting ledger start s.1 s.2)
      (Call.runAll ops calls) := by
  induction calls with
  | nil => exact maintains_pure ()
  | cons call calls ih =>
      exact maintains_bind (maintains_attempt (maintains_run hLaws call)) fun _ => ih

/-- Over any calls on a buffer of any capacity, the transport is a queue both ways. -/
theorem faithful_fifo (hLaws : ledger.Lawful ops r) (inner : T) (readCap writeCap : Nat)
    (calls : List Call) :
    let run := Call.runAll ops calls r (⟨[], []⟩, withCapacity inner readCap writeCap)
    let caller := run.2.1
    let t := run.2.2
    (t.readPos ≤ t.readLen ∧ t.readLen ≤ t.readBuf.length) ∧
      ledger.given t.inner = ledger.given inner ++ caller.delivered ++ t.available ∧
      (ledger.writeFailed t.inner = false →
        ledger.received t.inner <+: ledger.received inner ++ caller.written) ∧
      ∀ t', run.1 ≠ .pending → BufferedTransport.flush ops r t = (.ok (), t') →
        ledger.writeFailed t'.inner = false →
        ledger.received t'.inner = ledger.received inner ++ caller.written := by
  intro run caller t
  have hRun := maintains_runAll hLaws calls (⟨[], []⟩, withCapacity inner readCap writeCap)
    (fifo_withCapacity ledger inner readCap writeCap)
  have hWaiting : Waiting ledger inner caller t := hRun.waits fun _ h => h.waiting
  refine ⟨⟨hWaiting.valid.readPos_le, hWaiting.valid.readLen_le⟩, hWaiting.given,
    hWaiting.received, ?_⟩
  intro t' hReturns hFlush hWrites
  have hFifo : Fifo ledger inner caller t := hRun.returned hReturns
  have hAfter := maintains_flush hLaws t hFifo
  rw [hFlush] at hAfter
  have hReceived := hAfter.received hWrites
  rw [writeBuf_flush hFlush, List.append_nil] at hReceived
  exact hReceived.symm

/-- Six bytes read in pieces of three, with a write between the reads. -/
theorem faithful_fifo_mock :
    let inner := (MockTransport.new [1, 2, 3, 4, 5, 6]).withMaxReadChunk 3
    let run := Call.runAll MockTransport.transport
      [.readExact 1, .read 5, .writeAll [7], .readExact 2, .write [8]] ()
      (⟨[], []⟩, withCapacity inner 4 0)
    (run.1 = .ok () ∧ run.2.1.delivered = [1, 2, 3, 4, 5] ∧ run.2.2.available = [6]) ∧
      MockTransport.ledger.given run.2.2.inner =
        MockTransport.ledger.given inner ++ run.2.1.delivered ++ run.2.2.available ∧
      ∀ t', run.1 ≠ .pending →
        BufferedTransport.flush MockTransport.transport () run.2.2 = (.ok (), t') →
        MockTransport.ledger.writeFailed t'.inner = false →
        MockTransport.ledger.received t'.inner =
          MockTransport.ledger.received inner ++ run.2.1.written :=
  have hFifo := faithful_fifo (MockTransport.lawful ())
    ((MockTransport.new [1, 2, 3, 4, 5, 6]).withMaxReadChunk 3) 4 0
    [.readExact 1, .read 5, .writeAll [7], .readExact 2, .write [8]]
  ⟨by decide, hFifo.2.1, hFifo.2.2.2⟩

end Calls

end PgClient.Transport.ByteBuffer
