import PgClient.Transport.TlsInput

/-!
What `write_all` hands to a rustls session and to the inner transport. The session
takes plaintext only while its send buffer has room, and only `write_tls` makes room.
-/

namespace PgClient.Transport

open Async

variable {S : Type}

/-- The send buffer of a session: its free space, the records waiting in it, the
records some plaintext becomes, and how many records one `write_tls` call hands out. -/
structure SendBuffer (S : Type) where
  free : S → Nat
  records : S → List Bytes
  sealed : S → Bytes → List Bytes
  perCall : Nat

namespace SendBuffer

structure Laws (buffer : SendBuffer S) (tls : Rustls S) : Prop where
  perCall_pos : 0 < buffer.perCall
  record_nonempty : ∀ s, ∀ record ∈ buffer.records s, record ≠ []
  sealed_nil : ∀ s, buffer.sealed s [] = []
  writer_takes : ∀ s buf, ∃ s', tls.writer s buf = (.ok (min buf.length (buffer.free s)), s') ∧
    buffer.free s' ≤ buffer.free s - min buf.length (buffer.free s) ∧
    buffer.records s' = buffer.records s ++ buffer.sealed s (buf.take (buffer.free s))
  writeTls_drains : ∀ s, ∃ s',
    tls.writeTls s = (.ok ((buffer.records s).take buffer.perCall).flatten, s') ∧
    buffer.records s' = (buffer.records s).drop buffer.perCall

/-- The records waiting once some plaintext has been taken. -/
def waiting (buffer : SendBuffer S) (s : S) (buf : Bytes) : List Bytes :=
  buffer.records s ++ buffer.sealed s buf

end SendBuffer

namespace TlsTransport

/-- `write_all` has ended, every plaintext byte went to the session once and in order,
and every record went to the inner transport unless that failed the write. -/
def WritesAll (buffer : SendBuffer S) (tls : Rustls S) (t : TlsTransport S) (buf : Bytes) : Prop :=
  ∃ rounds outcome t', writeAll rounds buf tls t = (outcome, t') ∧
    t'.given.plain = t.given.plain ++ buf ∧
    ((outcome = .ok () ∧ buffer.records t'.tlsConn = [] ∧
        t'.inner.written = t.inner.written ++ (buffer.waiting t.tlsConn buf).flatten) ∨
      ∃ e, t.inner.fault = some e ∧ outcome = .err e)

variable {buffer : SendBuffer S} {tls : Rustls S}

/-- More plaintext than the send buffer has room for keeps the loop going for ever. -/
theorem writeAllLoop_pending (laws : buffer.Laws tls) (buf : Bytes) (rounds written : Nat)
    (t : TlsTransport S) (h : written + buffer.free t.tlsConn < buf.length) :
    (writeAllLoop buf rounds written tls t).1 = .pending := by
  induction rounds generalizing written t with
  | zero =>
      rw [writeAllLoop, if_pos (by omega)]
      rfl
  | succ rounds ih =>
      obtain ⟨s', hWrite, hFree, _⟩ := laws.writer_takes t.tlsConn (buf.drop written)
      have hCount : min (buf.drop written).length (buffer.free t.tlsConn) =
          buffer.free t.tlsConn := by
        rw [List.length_drop]
        omega
      rw [hCount] at hWrite hFree
      have hRest := ih (written + buffer.free t.tlsConn)
        { t with
          tlsConn := s'
          given.plain := t.given.plain ++ (buf.drop written).take (buffer.free t.tlsConn) }
        (by change written + buffer.free t.tlsConn + buffer.free s' < buf.length; omega)
      rw [writeAllLoop, if_pos (by omega), bind_apply]
      simpa only [writer, hWrite, andThen_ok] using hRest

/-- Plaintext that fits the send buffer is taken in one round. -/
theorem writeAllLoop_fits (laws : buffer.Laws tls) (buf : Bytes) (t : TlsTransport S)
    (h : buf.length ≤ buffer.free t.tlsConn) :
    ∃ s', buffer.records s' = buffer.waiting t.tlsConn buf ∧
      ∀ rounds, writeAllLoop buf rounds 0 tls t =
          (.ok (), { t with tlsConn := s', given.plain := t.given.plain ++ buf }) ∨
        (writeAllLoop buf rounds 0 tls t).1 = .pending ∧ rounds = 0 := by
  cases hBuf : buf with
  | nil =>
      refine ⟨t.tlsConn, by simp [SendBuffer.waiting, laws.sealed_nil], fun rounds => ?_⟩
      cases rounds <;> simp [writeAllLoop]
  | cons b bs =>
      rw [← hBuf]
      obtain ⟨s', hWrite, _, hRecords⟩ := laws.writer_takes t.tlsConn buf
      rw [Nat.min_eq_left h] at hWrite
      rw [List.take_of_length_le h] at hRecords
      have hPos : 0 < buf.length := by simp [hBuf]
      refine ⟨s', hRecords, fun rounds => ?_⟩
      cases rounds with
      | zero => exact Or.inr ⟨by simp [writeAllLoop, hPos], rfl⟩
      | succ rounds =>
          left
          have hEnd : writeAllLoop buf rounds buf.length =
              (pure () : Tls S Unit) := by
            cases rounds <;> rw [writeAllLoop, if_neg (Nat.lt_irrefl _)]
          rw [writeAllLoop, if_pos hPos, bind_apply]
          simp [writer, hWrite, hEnd]

/-- One `write_tls` call, and one inner write when it handed out anything. -/
theorem flushTlsOutgoing_eq (laws : buffer.Laws tls) (t : TlsTransport S) :
    ∃ s', buffer.records s' = (buffer.records t.tlsConn).drop buffer.perCall ∧
      flushTlsOutgoing tls t =
        (doIf (((buffer.records t.tlsConn).take buffer.perCall).flatten ≠ [])
          (innerWriteAll ((buffer.records t.tlsConn).take buffer.perCall).flatten) : Tls S Unit)
          tls { t with tlsConn := s' } := by
  obtain ⟨s', hWrite, hRecords⟩ := laws.writeTls_drains t.tlsConn
  refine ⟨s', hRecords, ?_⟩
  rw [flushTlsOutgoing, bind_apply, writeTls, hWrite]
  rfl

private theorem keeps_flushPlain (tls : Rustls S) (plain : Bytes) :
    Keeps tls (fun t => t.given.plain = plain) flushTlsOutgoing := by
  refine keeps_bind ?_ fun outgoing => keeps_doIf _ ?_
  · intro t h
    simp only [writeTls]
    split <;> exact h
  · intro t h
    simp only [innerWriteAll]
    split <;> exact h

/-- Nothing to hand out means nothing waits. -/
private theorem records_eq_nil_of_flatten (laws : buffer.Laws tls) (s : S)
    (h : ((buffer.records s).take buffer.perCall).flatten = []) : buffer.records s = [] := by
  cases hRecords : buffer.records s with
  | nil => rfl
  | cons record records =>
      obtain ⟨k, hCall⟩ : ∃ k, buffer.perCall = k + 1 := ⟨buffer.perCall - 1, by
        have hPos := laws.perCall_pos
        omega⟩
      rw [hRecords, hCall, List.take_succ_cons, List.flatten_cons] at h
      have hEmpty := (List.append_eq_nil_iff.mp h).1
      exact absurd hEmpty (laws.record_nonempty s record (by simp [hRecords]))

/-- After the loop has handed over everything, the flush completes the write exactly when
one call hands out all records or the inner transport fails the write. -/
private theorem flush_completes_iff (laws : buffer.Laws tls) (t : TlsTransport S) :
    ((flushTlsOutgoing tls t).1 = .ok () ∧
        buffer.records (flushTlsOutgoing tls t).2.tlsConn = [] ∧
        (flushTlsOutgoing tls t).2.inner.written =
          t.inner.written ++ (buffer.records t.tlsConn).flatten ∨
      ∃ e, t.inner.fault = some e ∧ (flushTlsOutgoing tls t).1 = .err e) ↔
      (t.inner.fault = none → (buffer.records t.tlsConn).length ≤ buffer.perCall) := by
  obtain ⟨s', hRecords, hFlush⟩ := flushTlsOutgoing_eq laws t
  rw [hFlush]
  by_cases hOut : ((buffer.records t.tlsConn).take buffer.perCall).flatten = []
  · have hNone := records_eq_nil_of_flatten laws t.tlsConn hOut
    simp [hRecords, hNone]
  · rw [doIf_pos hOut, innerWriteAll]
    cases hFault : t.inner.fault with
    | some e => simp
    | none =>
        simp only [reduceCtorEq, false_and, exists_false, or_false, true_and, forall_const,
          hRecords, List.drop_eq_nil_iff]
        constructor
        · intro h
          exact h.1
        · intro h
          exact ⟨h, by rw [List.take_of_length_le h]⟩

/-- Too long a buffer is never finished. -/
theorem not_writesAll_of_over (laws : buffer.Laws tls) (t : TlsTransport S) (buf : Bytes)
    (h : buffer.free t.tlsConn < buf.length) : ¬ WritesAll buffer tls t buf := by
  intro hAll
  obtain ⟨rounds, outcome, t', hRun, _, hDone⟩ := hAll
  have hPending := writeAllLoop_pending laws buf rounds 0 t (by omega)
  rw [writeAll, bind_pending _ hPending] at hRun
  cases hRun
  rcases hDone with ⟨hOutcome, _⟩ | ⟨e, _, hOutcome⟩ <;> cases hOutcome

/-- `write_all` does its work exactly when the buffer fits the free space of the session
and, unless the inner transport fails the write, one call hands out every record. -/
theorem writeAll_completes_iff (laws : buffer.Laws tls) (t : TlsTransport S) (buf : Bytes) :
    WritesAll buffer tls t buf ↔
      buf.length ≤ buffer.free t.tlsConn ∧
        (t.inner.fault = none → (buffer.waiting t.tlsConn buf).length ≤ buffer.perCall) := by
  constructor
  · intro h
    have hFits : buf.length ≤ buffer.free t.tlsConn := by
      by_contra hOver
      exact not_writesAll_of_over laws t buf (by omega) h
    refine ⟨hFits, ?_⟩
    obtain ⟨rounds, outcome, t', hRun, _, hDone⟩ := h
    obtain ⟨s', hRecords, hLoop⟩ := writeAllLoop_fits laws buf t hFits
    rcases hLoop rounds with hOk | ⟨hPending, _⟩
    · rw [writeAll, bind_apply, hOk, andThen_ok] at hRun
      have hIff := flush_completes_iff laws
        { t with tlsConn := s', given.plain := t.given.plain ++ buf }
      rw [hRun, hRecords] at hIff
      exact hIff.mp hDone
    · rw [writeAll, bind_pending _ hPending] at hRun
      cases hRun
      rcases hDone with ⟨hOutcome, _⟩ | ⟨e, _, hOutcome⟩ <;> cases hOutcome
  · intro h
    obtain ⟨s', hRecords, hLoop⟩ := writeAllLoop_fits laws buf t h.1
    have hOk := (hLoop 1).resolve_right fun hWait => absurd hWait.2 (by decide)
    have hIff := flush_completes_iff laws
      { t with tlsConn := s', given.plain := t.given.plain ++ buf }
    rw [hRecords] at hIff
    have hPlain := keeps_flushPlain tls (t.given.plain ++ buf)
      { t with tlsConn := s', given.plain := t.given.plain ++ buf } rfl
    exact ⟨1, _, _, by rw [writeAll, bind_apply, hOk, andThen_ok], hPlain, hIff.mpr h.2⟩

end TlsTransport

namespace RecordSession

def sendBuffer : SendBuffer RecordSession where
  free := free
  records s := s.records.map Record.bytes
  sealed s buf := (s.sealed buf).map Record.bytes
  perCall := 64

theorem sendBuffer_laws : sendBuffer.Laws session where
  perCall_pos := by decide
  record_nonempty s record h := by
    obtain ⟨r, _, hr⟩ := List.mem_map.mp h
    rw [← hr]
    exact List.cons_ne_nil _ _
  sealed_nil _ := rfl
  writer_takes s buf := by
    refine ⟨s.accept buf, rfl, ?_, by simp [sendBuffer, accept]⟩
    by_cases hEmpty : buf.take s.free = []
    · have hCount := congrArg List.length hEmpty
      rw [List.length_take, List.length_nil] at hCount
      have hSealed : s.sealed (buf.take s.free) = [] := if_pos hEmpty
      have hSame : (s.accept buf).free = s.free := by
        rw [accept, hSealed, List.append_nil]
      simp only [sendBuffer]
      omega
    · have hSealed : s.sealed (buf.take s.free) =
          [{ contentType := 23, payload := buf.take s.free }] := if_neg hEmpty
      have hLength : ((s.accept buf).records.map Record.bytes).flatten.length =
          (s.records.map Record.bytes).flatten.length + ((buf.take s.free).length + 1) := by
        simp [accept, hSealed, Record.bytes]
      rw [List.length_take] at hLength
      have hFree : s.free = 65536 - (s.records.map Record.bytes).flatten.length := rfl
      have hFree' : (s.accept buf).free =
          65536 - ((s.accept buf).records.map Record.bytes).flatten.length := rfl
      simp only [sendBuffer]
      omega
  writeTls_drains s :=
    ⟨{ s with records := s.records.drop 64 }, by simp [session, sendBuffer], by simp [sendBuffer]⟩

/-- An established connection with nothing to send. -/
def quietConn : TlsTransport RecordSession where
  tlsConn := { handshaking := false, records := [] }
  inner := { reads := [], written := [], fault := none }
  tlsServerEndPoint := none
  given := { offers := [], cipher := [], plain := [] }

theorem writeAll_completes_short :
    sendBuffer.Laws session ∧
      (TlsTransport.WritesAll sendBuffer session quietConn [81, 0] ↔
        2 ≤ free quietConn.tlsConn ∧
          (quietConn.inner.fault = none →
            (sendBuffer.waiting quietConn.tlsConn [81, 0]).length ≤ 64)) :=
  ⟨sendBuffer_laws, TlsTransport.writeAll_completes_iff sendBuffer_laws quietConn [81, 0]⟩

/-- One byte more than the empty send buffer holds is never written. -/
theorem writeAll_never_ends :
    ¬ TlsTransport.WritesAll sendBuffer session quietConn (List.replicate 65537 0) := by
  apply TlsTransport.not_writesAll_of_over sendBuffer_laws
  rw [List.length_replicate]
  decide

end RecordSession
end PgClient.Transport
