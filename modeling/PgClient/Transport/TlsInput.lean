import PgClient.Transport.Tls

/-!
What reaches a rustls session of the ciphertext that was read for it. A call of
`read_tls` takes a bounded amount; the transport does not offer the remainder again.
-/

namespace PgClient.Transport

open Async

variable {S : Type}

namespace Rustls

def taken : Except IoError Nat → Nat
  | .ok n => n
  | .error _ => 0

/-- A session takes at most `room` bytes of what one `read_tls` call offers, and none
when it fails the call. -/
def TakesUpTo (tls : Rustls S) (room : S → Nat) : Prop :=
  ∀ s chunk, taken (tls.readTls s chunk).1 = min chunk.length (room s)

end Rustls

namespace TlsTransport

/-- The session took every byte read from the inner transport so far, in order. -/
def Lossless (inner : InnerTransport) (t : TlsTransport S) : Prop :=
  ∃ used, inner.reads = used ++ t.inner.reads ∧ t.given.cipher = used.flatMap InnerRead.bytes

/-- Each offer met a session with room for the whole of it. -/
def OffersFit (room : S → Nat) (t : TlsTransport S) : Prop :=
  ∀ offer ∈ t.given.offers, offer.2.length ≤ room offer.1

/-- Every byte read was offered once, and the session took the front of each offer. -/
def Accounted (inner : InnerTransport) (room : S → Nat) (offers : List (S × Bytes))
    (cipher : Bytes) (reads : List InnerRead) : Prop :=
  (∃ used, inner.reads = used ++ reads ∧ offers.flatMap Prod.snd = used.flatMap InnerRead.bytes) ∧
    cipher = offers.flatMap fun offer => offer.2.take (room offer.1)

private theorem taken_eq_offered_iff (room : S → Nat) (offers : List (S × Bytes)) :
    (offers.flatMap fun offer => offer.2.take (room offer.1)) = offers.flatMap Prod.snd ↔
      ∀ offer ∈ offers, offer.2.length ≤ room offer.1 := by
  have hLength : ∀ offers : List (S × Bytes),
      (offers.flatMap fun offer => offer.2.take (room offer.1)).length ≤
        (offers.flatMap Prod.snd).length := by
    intro offers
    induction offers with
    | nil => simp
    | cons offer offers ih =>
        simp only [List.flatMap_cons, List.length_append, List.length_take]
        omega
  induction offers with
  | nil => simp
  | cons offer offers ih =>
      simp only [List.flatMap_cons, List.forall_mem_cons]
      constructor
      · intro h
        have hTotal := congrArg List.length h
        have hRest := hLength offers
        simp only [List.length_append, List.length_take] at hTotal
        have hFit : offer.2.length ≤ room offer.1 := by omega
        rw [List.take_of_length_le hFit] at h
        exact ⟨hFit, ih.mp (List.append_cancel_left h)⟩
      · intro h
        rw [List.take_of_length_le h.1, ih.mpr h.2]

/-- What a step says about the session's input and the reads still to come. -/
abbrev OnInput (inv : List (S × Bytes) → Bytes → List InnerRead → Prop)
    (t : TlsTransport S) : Prop :=
  inv t.given.offers t.given.cipher t.inner.reads

theorem lossless_iff_of_accounted {inner : InnerTransport} {room : S → Nat}
    {t : TlsTransport S} (h : OnInput (Accounted inner room) t) :
    t.Lossless inner ↔ t.OffersFit room := by
  obtain ⟨⟨used, hUsed, hOffered⟩, hTaken⟩ := h
  rw [OffersFit, ← taken_eq_offered_iff room t.given.offers, ← hTaken, hOffered]
  constructor
  · intro h
    obtain ⟨used', hUsed', hCipher⟩ := h
    have hSame : used' = used := List.append_cancel_right (hUsed'.symm.trans hUsed)
    rw [hCipher, hSame]
  · intro h
    exact ⟨used, hUsed, h⟩

section Frame

variable (tls : Rustls S) (inv : List (S × Bytes) → Bytes → List InnerRead → Prop)

theorem keeps_innerWriteAll (buf : Bytes) : Keeps tls (OnInput inv) (innerWriteAll buf) := by
  intro t h
  simp only [innerWriteAll]
  split <;> exact h

theorem keeps_innerFlush : Keeps tls (OnInput inv) innerFlush := by
  intro t h
  simp only [innerFlush]
  split <;> exact h

theorem keeps_processNewPackets : Keeps tls (OnInput inv) processNewPackets := by
  intro t h
  simp only [processNewPackets]
  split <;> exact h

theorem keeps_writeTls : Keeps tls (OnInput inv) writeTls := by
  intro t h
  simp only [writeTls]
  split <;> exact h

theorem keeps_writer (buf : Bytes) : Keeps tls (OnInput inv) (writer buf) := by
  intro t h
  simp only [writer]
  split <;> exact h

theorem keeps_readPlain (bufLen : Nat) : Keeps tls (OnInput inv) (readPlain bufLen) := by
  intro t h
  simp only [readPlain]
  split
  · exact h
  · split <;> exact h

theorem keeps_serverEndPoint : Keeps tls (OnInput inv) serverEndPoint := by
  intro t h
  simp only [serverEndPoint]
  split <;> exact h

theorem keeps_flushTlsOutgoing : Keeps tls (OnInput inv) flushTlsOutgoing :=
  keeps_bind (keeps_writeTls tls inv) fun outgoing =>
    keeps_doIf _ (keeps_innerWriteAll tls inv outgoing)

theorem keeps_writeAllLoop (buf : Bytes) (rounds written : Nat) :
    Keeps tls (OnInput inv) (writeAllLoop buf rounds written) := by
  induction rounds generalizing written with
  | zero => exact keeps_ite keeps_wait (keeps_pure ())
  | succ rounds ih =>
      exact keeps_ite (keeps_bind (keeps_writer tls inv _) fun n => ih (written + n))
        (keeps_pure ())

theorem keeps_flush : Keeps tls (OnInput inv) flush := by
  intro t h
  simp only [flush]
  split
  · exact keeps_bind (keeps_flushTlsOutgoing tls inv) (fun _ => keeps_innerFlush tls inv) _ h
  · exact h

end Frame

section Input

variable (tls : Rustls S) (room : S → Nat) (laws : tls.TakesUpTo room) (inner : InnerTransport)
include laws

/-- A read of the inner transport is offered to the session before anything else. -/
theorem keeps_feed : Keeps tls (OnInput (Accounted inner room)) feed := by
  intro t h
  obtain ⟨⟨used, hUsed, hOffered⟩, hTaken⟩ := h
  simp only [feed, receive, bind_apply]
  cases hReads : t.inner.reads with
  | nil => exact ⟨⟨used, hUsed, hOffered⟩, hTaken⟩
  | cons next reads =>
      have hNext : inner.reads = (used ++ [next]) ++ reads := by
        rw [hUsed, hReads, List.append_assoc, List.singleton_append]
      cases next with
      | eof =>
          refine ⟨⟨used ++ [.eof], hNext, ?_⟩, hTaken⟩
          simpa [InnerRead.bytes] using hOffered
      | failed e =>
          refine ⟨⟨used ++ [.failed e], hNext, ?_⟩, hTaken⟩
          simpa [InnerRead.bytes] using hOffered
      | data chunk =>
          have hCount := laws t.tlsConn chunk.bytes
          have hTake : chunk.bytes.take (Rustls.taken (tls.readTls t.tlsConn chunk.bytes).1) =
              chunk.bytes.take (room t.tlsConn) := by
            rw [hCount]
            rcases Nat.le_total chunk.bytes.length (room t.tlsConn) with hFit | hOver
            · rw [Nat.min_eq_left hFit, List.take_length, List.take_of_length_le hFit]
            · rw [Nat.min_eq_right hOver]
          have hArrived : ∃ used', inner.reads = used' ++ reads ∧
              (t.given.offers ++ [(t.tlsConn, chunk.bytes)]).flatMap Prod.snd =
                used'.flatMap InnerRead.bytes :=
            ⟨used ++ [.data chunk], hNext, by simp [hOffered, InnerRead.bytes]⟩
          simp only [andThen_ok, bind_apply, failIf_neg chunk.nonempty, pure_apply, readTls]
          rcases hRead : tls.readTls t.tlsConn chunk.bytes with ⟨e | n, s'⟩
          · rw [hRead] at hTake
            refine ⟨hArrived, ?_⟩
            simpa [hTaken, Rustls.taken] using hTake
          · rw [hRead] at hTake
            refine ⟨hArrived, ?_⟩
            simpa [hTaken, Rustls.taken] using hTake

theorem keeps_handshakeLoop (iterations : Nat) :
    Keeps tls (OnInput (Accounted inner room)) (handshakeLoop iterations) := by
  induction iterations with
  | zero => exact keeps_fail _
  | succ iterations ih =>
      refine keeps_bind (keeps_writeTls tls _) fun outgoing => ?_
      refine keeps_bind (keeps_doIf _ ?_) fun _ => ?_
      · exact keeps_bind (keeps_innerWriteAll tls _ outgoing) fun _ => keeps_innerFlush tls _
      refine keeps_bind (fun _ h => h) fun handshaking => keeps_ite ?_ (keeps_pure ())
      refine keeps_bind (keeps_feed tls room laws inner) fun n => ?_
      refine keeps_bind (keeps_failIf _ _) fun _ => ?_
      exact keeps_bind (keeps_processNewPackets tls _) fun _ => ih

theorem keeps_handshake : Keeps tls (OnInput (Accounted inner room)) handshake := by
  refine keeps_bind (keeps_handshakeLoop tls room laws inner _) fun _ => ?_
  refine keeps_bind (fun _ h => h) fun handshaking => ?_
  exact keeps_bind (keeps_failIf _ _) fun _ => keeps_serverEndPoint tls _

theorem keeps_readLoop (bufLen fuel : Nat) :
    Keeps tls (OnInput (Accounted inner room)) (readLoop bufLen fuel) := by
  induction fuel with
  | zero => exact keeps_wait
  | succ fuel ih =>
      refine keeps_bind (keeps_readPlain tls _ bufLen) fun plain => ?_
      cases plain with
      | some data => exact keeps_pure data
      | none =>
          refine keeps_bind (keeps_feed tls room laws inner) fun n => ?_
          exact keeps_bind (keeps_processNewPackets tls _) fun _ => ih

theorem keeps_call (c : Call) : Keeps tls (OnInput (Accounted inner room)) (call c) := by
  cases c with
  | read bufLen =>
      exact keeps_bind (fun t h => keeps_readLoop tls room laws inner bufLen _ t h)
        fun _ => keeps_pure ()
  | write buf =>
      refine keeps_bind (keeps_bind (keeps_writer tls _ buf) fun n => ?_) fun _ => keeps_pure ()
      exact keeps_bind (keeps_flushTlsOutgoing tls _) fun _ => keeps_pure n
  | writeAll rounds buf =>
      exact keeps_bind (keeps_writeAllLoop tls _ buf rounds 0) fun _ =>
        keeps_flushTlsOutgoing tls _
  | flush => exact keeps_flush tls _

theorem keeps_run (cs : List Call) : Keeps tls (OnInput (Accounted inner room)) (run cs) := by
  refine keeps_bind (keeps_handshake tls room laws inner) fun _ => ?_
  induction cs with
  | nil => exact keeps_pure ()
  | cons c cs ih =>
      exact keeps_bind (keeps_attempt (keeps_call tls room laws inner c)) fun _ => ih

end Input

/-- In every run, whatever the inner transport returns from its reads, the session has
taken exactly the bytes read exactly when it had room for each offer. -/
theorem run_lossless_iff (tls : Rustls S) (room : S → Nat) (laws : tls.TakesUpTo room)
    (inner : InnerTransport) (serverName : String) (t : TlsTransport S)
    (hNew : new tls inner serverName = .ok t) (cs : List Call) :
    (run cs tls t).2.Lossless inner ↔ (run cs tls t).2.OffersFit room := by
  have hStart : OnInput (Accounted inner room) t := by
    cases hConnect : tls.connect serverName with
    | error e => simp [new, hConnect, Except.map] at hNew
    | ok s =>
        simp only [new, hConnect, Except.map, Except.ok.injEq] at hNew
        subst hNew
        exact ⟨⟨[], rfl, rfl⟩, rfl⟩
  exact lossless_iff_of_accounted (keeps_run tls room laws inner cs t hStart)

end TlsTransport

structure Record where
  contentType : UInt8
  payload : Bytes

def Record.bytes (record : Record) : Bytes := record.contentType :: record.payload

/-- A session with one flight each way, a deframer that takes 4096 bytes a call, a send
buffer of 64 KiB, and incoming application records of which none is complete yet. -/
structure RecordSession where
  handshaking : Bool
  records : List Record

namespace RecordSession

def free (s : RecordSession) : Nat := 65536 - (s.records.map Record.bytes).flatten.length

def room (_ : RecordSession) : Nat := 4096

def sealed (_ : RecordSession) (buf : Bytes) : List Record :=
  if buf = [] then [] else [{ contentType := 23, payload := buf }]

def accept (s : RecordSession) (buf : Bytes) : RecordSession :=
  { s with records := s.records ++ s.sealed (buf.take s.free) }

def clientHello : Record where
  contentType := 22
  payload := []

def session : Rustls RecordSession where
  connect _ := .ok { handshaking := true, records := [clientHello] }
  isHandshaking s := s.handshaking
  readTls s chunk := (.ok (min chunk.length s.room), s)
  processNewPackets s := (.ok (), { s with handshaking := false })
  writeTls s := (.ok ((s.records.take 64).map Record.bytes).flatten,
    { s with records := s.records.drop 64 })
  reader s _ := (.error { kind := .wouldBlock, message := "" }, s)
  writer s buf := (.ok (min buf.length s.free), s.accept buf)
  writerFlush s := (.ok (), s)
  serverEndPoint _ := .ok none

theorem session_takesUpTo : session.TakesUpTo room := fun _ _ => rfl

/-- The server's flight, then one read from the middle of a large record. -/
def largeResult (bs : Bytes) (h : bs.length < 8192) : InnerTransport where
  reads := [.data { bytes := [22], nonempty := by simp, bounded := by simp },
    .data { bytes := 23 :: bs, nonempty := by simp, bounded := h }]
  written := []
  fault := none

def largeResultConn (bs : Bytes) (h : bs.length < 8192) : TlsTransport RecordSession where
  tlsConn := { handshaking := true, records := [clientHello] }
  inner := largeResult bs h
  tlsServerEndPoint := none
  given := { offers := [], cipher := [], plain := [] }

theorem largeResult_handshake (bs : Bytes) (h : bs.length < 8192) (rounds : Nat) :
    TlsTransport.handshakeLoop (rounds + 2) session (largeResultConn bs h) =
      (.ok (), { largeResultConn bs h with
        tlsConn := { handshaking := false, records := [] }
        inner := { largeResult bs h with
          reads := [.data { bytes := 23 :: bs, nonempty := by simp, bounded := h }]
          written := [22] }
        given := {
          offers := [({ handshaking := true, records := [] }, [22])]
          cipher := [22]
          plain := [] } }) := by
  rw [TlsTransport.handshakeLoop, TlsTransport.handshakeLoop]
  simp [TlsTransport.writeTls, TlsTransport.innerWriteAll, TlsTransport.innerFlush,
    TlsTransport.isHandshaking, TlsTransport.feed, TlsTransport.receive, TlsTransport.readTls,
    TlsTransport.processNewPackets, session, largeResultConn, largeResult, room,
    clientHello, Record.bytes]

theorem largeResult_offers (bs : Bytes) (h : bs.length < 8192) :
    (TlsTransport.run [.read 1] session (largeResultConn bs h)).2.given.offers =
      [({ handshaking := true, records := [] }, [22]),
        ({ handshaking := false, records := [] }, 23 :: bs)] := by
  simp only [TlsTransport.run, TlsTransport.handshake, bind_apply, largeResult_handshake bs h 98,
    TlsTransport.maxHandshakeIterations]
  simp [TlsTransport.isHandshaking, TlsTransport.serverEndPoint, TlsTransport.calls,
    TlsTransport.call, TlsTransport.read, TlsTransport.readLoop, TlsTransport.readPlain,
    TlsTransport.feed, TlsTransport.receive, TlsTransport.readTls,
    TlsTransport.processNewPackets, attempt, session]

theorem run_lossless_smallResult :
    TlsTransport.new session (largeResult [1, 2] (by decide)) "db" =
        .ok (largeResultConn [1, 2] (by decide)) ∧
      ((TlsTransport.run [.read 1] session (largeResultConn [1, 2] (by decide))).2.Lossless
          (largeResult [1, 2] (by decide)) ↔
        (TlsTransport.run [.read 1] session (largeResultConn [1, 2] (by decide))).2.OffersFit
          room) :=
  ⟨rfl, TlsTransport.run_lossless_iff session room session_takesUpTo _ "db"
    (largeResultConn [1, 2] (by decide)) rfl [.read 1]⟩

/-- With the byte before it, a read that fills the buffer. -/
def fullRead : Bytes := List.replicate 8191 23

theorem fullRead_fits : fullRead.length < 8192 := by
  rw [fullRead, List.length_replicate]
  decide

/-- Half of a read that fills the buffer is dropped. -/
theorem run_drops_half_of_fullRead :
    ¬ (TlsTransport.run [.read 1] session (largeResultConn fullRead fullRead_fits)).2.Lossless
        (largeResult fullRead fullRead_fits) := by
  have hStart : TlsTransport.OnInput
      (TlsTransport.Accounted (largeResult fullRead fullRead_fits) room)
      (largeResultConn fullRead fullRead_fits) := ⟨⟨[], rfl, rfl⟩, rfl⟩
  have hRun := TlsTransport.keeps_run session room session_takesUpTo _ [.read 1] _ hStart
  rw [TlsTransport.lossless_iff_of_accounted hRun, TlsTransport.OffersFit, largeResult_offers]
  intro hFit
  have hLast := hFit _ (List.mem_cons_of_mem _ (List.mem_singleton_self _))
  rw [List.length_cons, fullRead, List.length_replicate, room] at hLast
  exact absurd hLast (by decide)

end RecordSession
end PgClient.Transport
