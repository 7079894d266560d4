import PgClient.Library.Triple
import PgClient.Transport.Negotiate
import PgClient.Transport.TlsInput

/-!
What crosses the wire where TLS is required. Every byte received after the answer to
the SSLRequest goes to the session, every byte sent after the SSLRequest comes from it,
and a reader above the buffers gets what the session decrypts, nothing else.
-/

namespace PgClient.Transport

open Async

variable {S : Type}

/-- A call on a session, by the bytes that it moves. -/
inductive SessionEvent where
  | offered (cipher : Bytes)
  | flight (cipher : Bytes)
  | decrypted (plain : Bytes)
  | internal

namespace SessionEvent

def received : SessionEvent → Bytes
  | .offered cipher => cipher
  | _ => []

def sent : SessionEvent → Bytes
  | .flight cipher => cipher
  | _ => []

def parsed : SessionEvent → Bytes
  | .decrypted plain => plain
  | _ => []

end SessionEvent

namespace ClientConnection

variable (client : ClientConnection S)

/-- One call on a session and the session after it. -/
inductive Does : S → SessionEvent → S → Prop
  | readTls (s : S) (chunk : Bytes) : Does s (.offered chunk) (client.readTls s chunk).2
  | writeTls {s s' : S} {cipher : Bytes} (h : client.writeTls s = (.ok cipher, s')) :
      Does s (.flight cipher) s'
  | writeFailed {s s' : S} {e : IoError} (h : client.writeTls s = (.error e, s')) :
      Does s .internal s'
  | reader {s s' : S} {bufLen : Nat} {plain : Bytes}
      (h : client.reader s bufLen = (.ok plain, s')) : Does s (.decrypted plain) s'
  | readFailed {s s' : S} {bufLen : Nat} {e : IoError}
      (h : client.reader s bufLen = (.error e, s')) : Does s .internal s'
  | processed (s : S) : Does s .internal (client.processNewPackets s).2
  | written (s : S) (buf : Bytes) : Does s .internal (client.writer s buf).2
  | flushed (s : S) : Does s .internal (client.writerFlush s).2
  | closing (s : S) : Does s .internal (client.sendCloseNotify s)

/-- The calls on a session in their order. -/
inductive History (s : S) : List SessionEvent → S → Prop
  | nil : History s [] s
  | snoc {events : List SessionEvent} {event : SessionEvent} {s' s'' : S}
      (before : History s events s') (last : client.Does s' event s'') :
      History s (events ++ [event]) s''

end ClientConnection

theorem ClientConnection.History.append {client : ClientConnection S} {s s' s'' : S}
    {events later : List SessionEvent} (h : client.History s events s')
    (hLater : client.History s' later s'') : client.History s (events ++ later) s'' := by
  induction hLater with
  | nil => simpa using h
  | snoc _ last ih =>
      rw [← List.append_assoc]
      exact .snoc ih last

/-- The bytes still to come on a wire. -/
def wireBytes (reads : List InnerRead) : Bytes := reads.flatMap InnerRead.bytes

@[simp] theorem wireBytes_cons (next : InnerRead) (reads : List InnerRead) :
    wireBytes (next :: reads) = next.bytes ++ wireBytes reads := List.flatMap_cons

/-- A transport since its session was in state `s` above the TCP transport `tcp`. -/
structure OnWire (client : ClientConnection S) (s : S) (tcp : InnerTransport)
    (events : List SessionEvent) (t : TlsTransport S) : Prop where
  history : client.History s events t.tlsConn
  received : wireBytes tcp.reads =
    events.flatMap SessionEvent.received ++ wireBytes t.inner.reads
  sent : t.inner.written =
    tcp.written ++ if tcp.fault = none then events.flatMap SessionEvent.sent else []
  fault : t.inner.fault = tcp.fault

section Wire

variable {client : ClientConnection S} {s : S} {tcp : InnerTransport}
  {events : List SessionEvent} {t : TlsTransport S}

/-- A call that moves nothing on the wire. -/
theorem OnWire.local (h : OnWire client s tcp events t) {event : SessionEvent} {s' : S}
    (hDoes : client.Does t.tlsConn event s') (hReceived : event.received = [])
    (hSent : event.sent = []) :
    OnWire client s tcp (events ++ [event]) { t with tlsConn := s' } where
  history := .snoc h.history hDoes
  received := by simpa [hReceived] using h.received
  sent := by simpa [hSent] using h.sent
  fault := h.fault

variable (client s tcp) in
/-- The session has decrypted `plain` so far. -/
def Carries (plain : Bytes) (t : TlsTransport S) : Prop :=
  ∃ events, OnWire client s tcp events t ∧ events.flatMap SessionEvent.parsed = plain

variable {plain : Bytes}

/-- The record of what a session was given is not part of it. -/
theorem Carries.of_eq (h : Carries client s tcp plain t) {t' : TlsTransport S}
    (hConn : t'.tlsConn = t.tlsConn) (hInner : t'.inner = t.inner) :
    Carries client s tcp plain t' := by
  obtain ⟨events, hWire, hPlain⟩ := h
  refine ⟨events, ⟨?_, ?_, ?_, ?_⟩, hPlain⟩
  · rw [hConn]
    exact hWire.history
  · rw [hInner]
    exact hWire.received
  · rw [hInner]
    exact hWire.sent
  · rw [hInner]
    exact hWire.fault

theorem Carries.internal (h : Carries client s tcp plain t) {s' : S}
    (hDoes : client.Does t.tlsConn .internal s') :
    Carries client s tcp plain { t with tlsConn := s' } := by
  obtain ⟨events, hWire, hPlain⟩ := h
  refine ⟨events ++ [.internal], hWire.local hDoes rfl rfl, ?_⟩
  simpa [SessionEvent.parsed] using hPlain

/-- With `outgoing`, which the session has handed out, on the wire, all is accounted for. -/
def Owes (client : ClientConnection S) (s : S) (tcp : InnerTransport) (plain outgoing : Bytes)
    (t : TlsTransport S) : Prop :=
  Carries client s tcp plain
    { t with inner.written := t.inner.written ++ if t.inner.fault = none then outgoing else [] }

theorem Owes.carries (h : Owes client s tcp plain [] t) : Carries client s tcp plain t := by
  simpa [Owes] using h

theorem post_writeTls (h : Carries client s tcp plain t) :
    Post (Owes client s tcp plain) (fun _ => Carries client s tcp plain)
      (TlsTransport.writeTls client.toRustls t) := by
  simp only [TlsTransport.writeTls]
  rcases hWrite : client.writeTls t.tlsConn with ⟨e | outgoing, s'⟩
  · exact h.internal (.writeFailed hWrite)
  · obtain ⟨events, hWire, hPlain⟩ := h
    refine ⟨events ++ [.flight outgoing], ⟨.snoc hWire.history (.writeTls hWrite), ?_, ?_,
      hWire.fault⟩, ?_⟩
    · simpa [SessionEvent.received] using hWire.received
    · have hSent := hWire.sent
      by_cases hFault : tcp.fault = none
      · simp [hFault, hWire.fault, SessionEvent.sent] at hSent ⊢
        rw [hSent, List.append_assoc]
      · simpa [hFault, hWire.fault] using hSent
    · simpa [SessionEvent.parsed] using hPlain

theorem carries_innerWriteAll {outgoing : Bytes} (h : Owes client s tcp plain outgoing t) :
    Carries client s tcp plain (TlsTransport.innerWriteAll outgoing client.toRustls t).2 := by
  simp only [TlsTransport.innerWriteAll]
  cases hFault : t.inner.fault with
  | none =>
      rw [Owes, if_pos hFault] at h
      exact h.of_eq rfl (by simp [hFault])
  | some e =>
      rw [Owes, if_neg (by simp [hFault])] at h
      exact h.of_eq rfl (by simp)

/-- A flight that is written at once, and what comes after it. -/
theorem keeps_flight {α : Type} {after : Bytes → Tls S Unit} {k : Tls S α}
    (hAfter : ∀ outgoing t, Owes client s tcp plain outgoing t →
      Carries client s tcp plain (after outgoing client.toRustls t).2)
    (hk : Keeps client.toRustls (Carries client s tcp plain) k) :
    Keeps client.toRustls (Carries client s tcp plain) (do
      let outgoing ← TlsTransport.writeTls
      doIf (outgoing ≠ []) (after outgoing)
      k) := by
  intro t h
  have hWrite := post_writeTls h
  rw [bind_apply]
  rcases hResult : TlsTransport.writeTls client.toRustls t with ⟨outgoing | e | _, t'⟩
  · rw [hResult] at hWrite
    rw [andThen_ok]
    by_cases hEmpty : outgoing = []
    · subst hEmpty
      exact hk t' (Owes.carries hWrite)
    · rw [doIf_pos hEmpty]
      have hDone := hAfter outgoing t' hWrite
      rw [bind_apply]
      revert hDone
      rcases after outgoing client.toRustls t' with ⟨_ | _ | _, t''⟩
      · exact hk t''
      · exact id
      · exact id
  · rw [hResult] at hWrite
    exact hWrite
  · simp only [TlsTransport.writeTls] at hResult
    split at hResult <;> cases hResult

end Wire

section Keeps

variable (client : ClientConnection S) (s : S) (tcp : InnerTransport) (plain : Bytes)

theorem keeps_innerFlush :
    Keeps client.toRustls (Carries client s tcp plain) TlsTransport.innerFlush := by
  intro t h
  simp only [TlsTransport.innerFlush]
  split <;> exact h

theorem keeps_processNewPackets :
    Keeps client.toRustls (Carries client s tcp plain) TlsTransport.processNewPackets := by
  intro t h
  have hDoes := @ClientConnection.Does.processed S client t.tlsConn
  simp only [TlsTransport.processNewPackets]
  rcases hProcess : client.processNewPackets t.tlsConn with ⟨_ | _, s'⟩ <;>
    rw [hProcess] at hDoes <;> exact h.internal hDoes

theorem keeps_writer (buf : Bytes) :
    Keeps client.toRustls (Carries client s tcp plain) (TlsTransport.writer buf) := by
  intro t h
  have hDoes := @ClientConnection.Does.written S client t.tlsConn buf
  simp only [TlsTransport.writer]
  rcases hTake : client.writer t.tlsConn buf with ⟨_ | _, s'⟩ <;>
    rw [hTake] at hDoes <;> exact (h.internal hDoes).of_eq rfl rfl

theorem keeps_serverEndPoint :
    Keeps client.toRustls (Carries client s tcp plain) TlsTransport.serverEndPoint := by
  intro t h
  simp only [TlsTransport.serverEndPoint]
  split <;> exact h.of_eq rfl rfl

theorem keeps_flushTlsOutgoing :
    Keeps client.toRustls (Carries client s tcp plain) TlsTransport.flushTlsOutgoing := by
  have h : Keeps client.toRustls (Carries client s tcp plain) (do
      let outgoing ← TlsTransport.writeTls
      doIf (outgoing ≠ []) (TlsTransport.innerWriteAll outgoing)
      pure ()) :=
    keeps_flight (fun outgoing t hOwes => carries_innerWriteAll hOwes) (keeps_pure ())
  simpa only [TlsTransport.flushTlsOutgoing, bind_pure_unit] using h

/-- What a read of the TCP transport returns goes to the session, and to nothing else. -/
theorem keeps_feed : Keeps client.toRustls (Carries client s tcp plain) TlsTransport.feed := by
  intro t h
  obtain ⟨events, hWire, hPlain⟩ := h
  have hReceived := hWire.received
  simp only [TlsTransport.feed, TlsTransport.receive, bind_apply]
  cases hReads : t.inner.reads with
  | nil => exact ⟨events, hWire, hPlain⟩
  | cons next reads =>
      rw [hReads, wireBytes_cons] at hReceived
      cases next with
      | eof =>
          exact ⟨events, ⟨hWire.history, by simpa [InnerRead.bytes] using hReceived,
            hWire.sent, hWire.fault⟩, hPlain⟩
      | failed e =>
          exact ⟨events, ⟨hWire.history, by simpa [InnerRead.bytes] using hReceived,
            hWire.sent, hWire.fault⟩, hPlain⟩
      | data chunk =>
          have hDoes := @ClientConnection.Does.readTls S client t.tlsConn chunk.bytes
          simp only [andThen_ok, bind_apply, failIf_neg chunk.nonempty, pure_apply,
            TlsTransport.readTls]
          rcases hRead : client.readTls t.tlsConn chunk.bytes with ⟨e | n, s'⟩ <;>
            rw [hRead] at hDoes <;>
            exact ⟨events ++ [.offered chunk.bytes], ⟨.snoc hWire.history hDoes,
              by simpa [SessionEvent.received, InnerRead.bytes] using hReceived,
              by simpa [SessionEvent.sent] using hWire.sent, hWire.fault⟩,
              by simpa [SessionEvent.parsed] using hPlain⟩

theorem keeps_handshakeLoop (iterations : Nat) :
    Keeps client.toRustls (Carries client s tcp plain) (TlsTransport.handshakeLoop iterations) := by
  induction iterations with
  | zero => exact keeps_fail _
  | succ iterations ih =>
      refine keeps_flight (fun outgoing t hOwes => ?_) ?_
      · have hWritten := carries_innerWriteAll hOwes
        rw [bind_apply]
        revert hWritten
        rcases TlsTransport.innerWriteAll outgoing client.toRustls t with ⟨_ | _ | _, t'⟩
        · exact keeps_innerFlush client s tcp plain t'
        · exact id
        · exact id
      · refine keeps_bind (fun _ h => h) fun handshaking => keeps_ite ?_ (keeps_pure ())
        refine keeps_bind (keeps_feed client s tcp plain) fun n => ?_
        refine keeps_bind (keeps_failIf _ _) fun _ => ?_
        exact keeps_bind (keeps_processNewPackets client s tcp plain) fun _ => ih

theorem keeps_handshake :
    Keeps client.toRustls (Carries client s tcp plain) TlsTransport.handshake := by
  refine keeps_bind (keeps_handshakeLoop client s tcp plain _) fun _ => ?_
  refine keeps_bind (fun _ h => h) fun handshaking => ?_
  exact keeps_bind (keeps_failIf _ _) fun _ => keeps_serverEndPoint client s tcp plain

theorem keeps_writeAll (rounds : Nat) (buf : Bytes) :
    Keeps client.toRustls (Carries client s tcp plain) (TlsTransport.writeAll rounds buf) := by
  have hLoop : ∀ rounds written, Keeps client.toRustls (Carries client s tcp plain)
      (TlsTransport.writeAllLoop buf rounds written) := by
    intro rounds
    induction rounds with
    | zero => exact fun written => keeps_ite keeps_wait (keeps_pure ())
    | succ rounds ih =>
        exact fun written => keeps_ite
          (keeps_bind (keeps_writer client s tcp plain _) fun n => ih (written + n)) (keeps_pure ())
  exact keeps_bind (hLoop rounds 0) fun _ => keeps_flushTlsOutgoing client s tcp plain

theorem keeps_flush :
    Keeps client.toRustls (Carries client s tcp plain) TlsTransport.flush := by
  intro t h
  have hDoes := @ClientConnection.Does.flushed S client t.tlsConn
  simp only [TlsTransport.flush]
  rcases hFlush : client.writerFlush t.tlsConn with ⟨_ | _, s'⟩ <;> rw [hFlush] at hDoes
  · exact h.internal hDoes
  · exact keeps_bind (keeps_flushTlsOutgoing client s tcp plain)
      (fun _ => keeps_innerFlush client s tcp plain) _ (h.internal hDoes)

theorem keeps_shutdown :
    Keeps client.toRustls (Carries client s tcp plain) (TlsTransport.shutdown client) := by
  refine keeps_bind (keeps_modify fun t h => ?_) fun _ => ?_
  · exact h.internal (.closing t.tlsConn)
  · exact keeps_bind (keeps_flushTlsOutgoing client s tcp plain) fun _ =>
      keeps_innerFlush client s tcp plain

/-- What a call returned is what the session decrypted in it. -/
def Reads (result : Outcome TransportError Bytes × TlsTransport S) : Prop :=
  match result with
  | (.ok data, t) => Carries client s tcp (plain ++ data) t
  | (_, t) => Carries client s tcp plain t

theorem reads_bind {α : Type} {x : Tls S α} {f : α → Tls S Bytes}
    (hx : Keeps client.toRustls (Carries client s tcp plain) x)
    (hf : ∀ a t, Carries client s tcp plain t → Reads client s tcp plain (f a client.toRustls t))
    (t : TlsTransport S) (h : Carries client s tcp plain t) :
    Reads client s tcp plain ((x >>= f) client.toRustls t) := by
  have hState := hx t h
  rw [bind_apply]
  revert hState
  rcases x client.toRustls t with ⟨a | _ | _, t'⟩
  · exact hf a t'
  · exact id
  · exact id

theorem readPlain_cases (bufLen : Nat) (t : TlsTransport S) (h : Carries client s tcp plain t) :
    (∃ data t', TlsTransport.readPlain bufLen client.toRustls t = (.ok (some data), t') ∧
        Carries client s tcp (plain ++ data) t') ∨
      ∃ t', Carries client s tcp plain t' ∧
        (TlsTransport.readPlain bufLen client.toRustls t = (.ok none, t') ∨
          ∃ e, TlsTransport.readPlain bufLen client.toRustls t = (.err e, t')) := by
  simp only [TlsTransport.readPlain]
  rcases hRead : client.reader t.tlsConn bufLen with ⟨e | data, s'⟩
  · have hState := h.internal (.readFailed hRead)
    simp only []
    split
    · exact Or.inr ⟨_, hState, Or.inl rfl⟩
    · exact Or.inl ⟨[], _, rfl, by simpa using hState⟩
    · exact Or.inr ⟨_, hState, Or.inr ⟨_, rfl⟩⟩
  · obtain ⟨events, hWire, hPlain⟩ := h
    refine Or.inl ⟨data, _, rfl, events ++ [.decrypted data],
      hWire.local (.reader hRead) rfl rfl, ?_⟩
    simp [SessionEvent.parsed, hPlain]

theorem reads_readLoop (bufLen fuel : Nat) (t : TlsTransport S)
    (h : Carries client s tcp plain t) :
    Reads client s tcp plain (TlsTransport.readLoop bufLen fuel client.toRustls t) := by
  induction fuel generalizing t with
  | zero => exact h
  | succ fuel ih =>
      rw [TlsTransport.readLoop, bind_apply]
      rcases readPlain_cases client s tcp plain bufLen t h with
        ⟨data, t', hRead, hState⟩ | ⟨t', hState, hRead | ⟨e, hRead⟩⟩
      · rw [hRead]
        exact hState
      · rw [hRead, andThen_ok]
        refine reads_bind client s tcp plain (keeps_feed client s tcp plain) (fun _ => ?_) t' hState
        exact reads_bind client s tcp plain (keeps_processNewPackets client s tcp plain) fun _ => ih
      · rw [hRead]
        exact hState

end Keeps

section Buffers

variable (client : ClientConnection S) (s : S) (tcp : InnerTransport) (rounds : Nat)

/-- The bytes handed out and those in the buffer are what the session decrypted. -/
def Parses (state : Bytes × BufferedTransport (TlsTransport S)) : Prop :=
  Carries client s tcp (state.1 ++ state.2.readBuf) state.2.inner

/-- A call on the transport below that decrypts nothing for its caller. -/
theorem parses_below {x : Tls S Unit}
    (hx : ∀ plain, Keeps client.toRustls (Carries client s tcp plain) x) (parsed : Bytes) :
    Keeps client.toRustls (fun t => Parses client s tcp (parsed, t)) (BufferedTransport.below x) :=
  fun t h => hx _ t.inner h

theorem parses_read (bufLen : Nat) :
    Keeps client.toRustls (Parses client s tcp)
      (BufferedTransport.use (TlsTransport.transport client rounds) (.read bufLen)) := by
  intro (parsed, t) h
  simp only [BufferedTransport.use, BufferedTransport.read, bind_apply, onSnd_apply, get_apply,
    andThen_ok]
  by_cases hBuf : t.readBuf = []
  · rw [doIf_pos hBuf]
    have hStart : Carries client s tcp parsed t.inner := by simpa [Parses, hBuf] using h
    obtain ⟨grown, hGrow, hInner, hEmpty⟩ : ∃ grown,
        BufferedTransport.ensureReadCapacity BufferedTransport.defaultReadCapacity t = grown ∧
          grown.inner = t.inner ∧ grown.readBuf = [] := by
      refine ⟨_, rfl, ?_⟩
      simp only [BufferedTransport.ensureReadCapacity]
      split <;> exact ⟨rfl, hBuf⟩
    have hRead := reads_readLoop client s tcp parsed grown.readCapacity
      (t.inner.inner.reads.length + 1) t.inner hStart
    simp only [bind_apply, modify_apply, get_apply, andThen_ok, BufferedTransport.below,
      TlsTransport.transport, TlsTransport.read, hGrow, hInner]
    revert hRead
    rcases TlsTransport.readLoop grown.readCapacity (t.inner.inner.reads.length + 1)
      client.toRustls t.inner with ⟨data | e | _, t'⟩
    · intro hRead
      simpa [Parses, Reads] using hRead
    · intro hRead
      simpa [Parses, Reads, hEmpty] using hRead
    · intro hRead
      simpa [Parses, Reads, hEmpty] using hRead
  · rw [doIf_neg hBuf]
    simpa [Parses] using h

theorem parses_flushWrite (parsed : Bytes) :
    Keeps client.toRustls (fun t => Parses client s tcp (parsed, t))
      (BufferedTransport.flushWrite (TlsTransport.transport client rounds)) := by
  refine keeps_bind keeps_get fun t => keeps_doIf _ ?_
  refine keeps_bind (parses_below client s tcp (fun plain => ?_) parsed) fun _ =>
    keeps_modify fun _ h => h
  exact keeps_writeAll client s tcp plain rounds _

theorem parses_writeAll (buf parsed : Bytes) :
    Keeps client.toRustls (fun t => Parses client s tcp (parsed, t))
      (BufferedTransport.writeAll (TlsTransport.transport client rounds) buf) := by
  refine keeps_bind (keeps_modify fun _ h => h) fun _ => ?_
  refine keeps_bind keeps_get fun t => keeps_doIf _ ?_
  exact parses_flushWrite client s tcp rounds parsed

theorem parses_flush (parsed : Bytes) :
    Keeps client.toRustls (fun t => Parses client s tcp (parsed, t))
      (BufferedTransport.flush (TlsTransport.transport client rounds)) :=
  keeps_bind (parses_flushWrite client s tcp rounds parsed) fun _ =>
    parses_below client s tcp (fun plain => keeps_flush client s tcp plain) parsed

theorem parses_shutdown (parsed : Bytes) :
    Keeps client.toRustls (fun t => Parses client s tcp (parsed, t))
      (BufferedTransport.shutdown (TlsTransport.transport client rounds)) :=
  keeps_bind (parses_flushWrite client s tcp rounds parsed) fun _ =>
    parses_below client s tcp (fun plain => keeps_shutdown client s tcp plain) parsed

theorem parses_use (u : Use) :
    Keeps client.toRustls (Parses client s tcp)
      (BufferedTransport.use (TlsTransport.transport client rounds) u) := by
  cases u with
  | read bufLen => exact parses_read client s tcp rounds bufLen
  | writeAll buf => exact keeps_onSnd (parses_writeAll client s tcp rounds buf)
  | flush => exact keeps_onSnd (parses_flush client s tcp rounds)
  | shutdown => exact keeps_onSnd (parses_shutdown client s tcp rounds)

theorem parses_uses (us : List Use) :
    Keeps client.toRustls (Parses client s tcp)
      (BufferedTransport.uses (TlsTransport.transport client rounds) us) := by
  induction us with
  | nil => exact keeps_pure ()
  | cons u us ih =>
      exact keeps_bind (keeps_attempt (parses_use client s tcp rounds u)) fun _ => ih

end Buffers
/-- An encrypted transport as it is handed out, opened over the TCP transport `tcp`. -/
structure Opened (client : ClientConnection S) (tcp : InnerTransport)
    (t : BufferedTransport (TlsTransport S)) : Prop where
  finished : client.isHandshaking t.inner.tlsConn = false
  nothingBuffered : t.readBuf = [] ∧ t.writeBuf = []
  wire : ∃ serverName s events, client.connect serverName = .ok s ∧
    client.History s events t.inner.tlsConn ∧
    wireBytes tcp.reads =
      0x53 :: (events.flatMap SessionEvent.received ++ wireBytes t.inner.inner.reads) ∧
    t.inner.inner.written = tcp.written ++ sslRequest ++ events.flatMap SessionEvent.sent ∧
    events.flatMap SessionEvent.parsed = []

/-- Bytes that a session handed out since it was made. -/
def FromSession (S : Type) (flights : Bytes) : Prop :=
  ∃ (client : ClientConnection S) (serverName : String) (s s' : S) (events : List SessionEvent),
    client.connect serverName = .ok s ∧ client.History s events s' ∧
      flights = events.flatMap SessionEvent.sent

/-- The SSLRequest is all that is sent before what a session hands out. -/
def SentOnly (S : Type) (tcp tcp' : InnerTransport) : Prop :=
  tcp'.written = tcp.written ∨
    ∃ flights, tcp'.written = tcp.written ++ sslRequest ++ flights ∧
      (flights = [] ∨ FromSession S flights)

/-- What opening a transport may come to where TLS is required. -/
structure OnlyTls (tcp : InnerTransport)
    (result : Outcome TransportError (PgTransport S) × InnerTransport) : Prop where
  opened : ∀ transport, result.1 = .ok transport →
    ∃ client t, transport = .tls client t ∧ t.inner.inner = result.2 ∧ Opened client tcp t
  sent : SentOnly S tcp result.2

section Negotiation

theorem takeExact_ok {reads rest : List InnerRead} {n : Nat} {bytes : Bytes}
    (h : InnerTransport.takeExact reads n = (.ok bytes, rest)) :
    wireBytes reads = bytes ++ wireBytes rest ∧ bytes.length = n := by
  induction reads generalizing n bytes with
  | nil =>
      cases n with
      | zero => cases h; exact ⟨rfl, rfl⟩
      | succ n => cases h
  | cons next reads ih =>
      cases n with
      | zero => cases h; exact ⟨rfl, rfl⟩
      | succ n =>
          cases next with
          | eof => cases h
          | failed e => cases h
          | data chunk =>
              rw [InnerTransport.takeExact] at h
              split at h
              case isTrue hLonger =>
                  cases h
                  refine ⟨?_, by rw [List.length_take]; omega⟩
                  simp only [wireBytes_cons, InnerRead.bytes, Chunk.rest]
                  rw [← List.append_assoc, List.take_append_drop]
              case isFalse hShorter =>
                  rcases hRest : InnerTransport.takeExact reads (n + 1 - chunk.bytes.length) with
                    ⟨more | e | _, rest'⟩ <;> rw [hRest] at h <;> cases h
                  obtain ⟨hBytes, hLength⟩ := ih hRest
                  refine ⟨?_, by rw [List.length_append, hLength]; omega⟩
                  rw [wireBytes_cons, hBytes, List.append_assoc]
                  rfl

variable (platform : Platform S)

theorem keeps_checkTimeAvailable (tcp : InnerTransport) :
    Keeps platform (fun tcp' => tcp' = tcp) (checkTimeAvailable : Tcp S Unit) :=
  keeps_bind keeps_env fun _ => keeps_lift _

theorem keeps_buildRustlsConfig (config : TlsConfig) (tcp : InnerTransport) :
    Keeps platform (fun tcp' => tcp' = tcp) (buildRustlsConfig config : Tcp S _) := by
  refine keeps_bind keeps_env fun platform' => keeps_bind (keeps_lift _) fun _ => ?_
  refine keeps_bind (keeps_doIf _ (keeps_lift _)) fun _ => ?_
  dsimp only
  split
  · exact keeps_bind (keeps_lift _) fun _ => keeps_pure _
  · exact keeps_pure _

theorem keeps_readErrorReply (written : Bytes) :
    Keeps platform (fun tcp => tcp.written = written) (readErrorReply : Tcp S (PgTransport S)) := by
  refine keeps_bind keeps_env fun platform' => keeps_bind (fun _ h => h) fun lenBuf => ?_
  exact keeps_bind (keeps_lift _) fun len => keeps_bind (fun _ h => h) fun _ => keeps_fail _

theorem readErrorReply_ne_ok (tcp : InnerTransport) (transport : PgTransport S) :
    ((readErrorReply : Tcp S (PgTransport S)) platform tcp).1 ≠ .ok transport := by
  have h : Triple platform (fun _ => True) (readErrorReply : Tcp S (PgTransport S))
      (fun _ _ => False) (fun _ _ => True) := by
    have hAny : ∀ {α : Type} (x : Tcp S α),
        Triple platform (fun _ => True) x (fun _ _ => True) (fun _ _ => True) := by
      intro α x tcp _
      rcases x platform tcp with ⟨_ | _ | _, _⟩ <;> trivial
    refine Triple.bind (hAny _) fun _ => Triple.bind (hAny _) fun _ => ?_
    exact Triple.bind (hAny _) fun _ => Triple.bind (hAny _) fun _ => Triple.fail fun _ h => h
  have hEnd := h tcp trivial
  revert hEnd
  rcases (readErrorReply : Tcp S (PgTransport S)) platform tcp with ⟨_ | _ | _, _⟩
  · exact False.elim
  · simp
  · simp

/-- A session of which the handshake succeeded has finished it. -/
theorem finished_handshake (client : ClientConnection S) :
    Triple client.toRustls (fun _ => True) TlsTransport.handshake
      (fun _ t => client.isHandshaking t.tlsConn = false) (fun _ _ => True) := by
  refine Triple.bind_via (fun _ _ => True) (fun t _ => ?_) fun _ => ?_
  · rcases TlsTransport.handshakeLoop _ client.toRustls t with ⟨_ | _ | _, _⟩ <;> trivial
  refine Triple.bind_via (fun handshaking t => handshaking = client.isHandshaking t.tlsConn)
    (fun _ _ => rfl) fun handshaking => ?_
  refine Triple.bind_via (fun _ t => client.isHandshaking t.tlsConn = false) ?_ fun _ => ?_
  · intro t h
    cases handshaking with
    | true => trivial
    | false => exact h.symm
  · intro t h
    simp only [TlsTransport.serverEndPoint]
    split
    · exact h
    · trivial

theorem handshake_cases (client : ClientConnection S) (serverName : String)
    (tcp : InnerTransport) :
    (∃ e, handshake client serverName platform tcp = (.err e, tcp)) ∨
      ∃ s conn, client.connect serverName = .ok s ∧ Carries client s tcp [] conn ∧
        (handshake client serverName platform tcp).2 = conn.inner ∧
        ∀ conn', (handshake client serverName platform tcp).1 = .ok conn' →
          conn' = conn ∧ client.isHandshaking conn.tlsConn = false := by
  simp only [handshake, TlsTransport.new]
  cases hConnect : client.connect serverName with
  | error e => exact Or.inl ⟨e, rfl⟩
  | ok s =>
      right
      simp only [Except.map]
      have hStart : Carries client s tcp [] {
          tlsConn := s, inner := tcp, tlsServerEndPoint := none,
          given := { offers := [], cipher := [], plain := [] } } :=
        ⟨[], ⟨.nil, rfl, by simp, rfl⟩, rfl⟩
      have hKept := keeps_handshake client s tcp [] _ hStart
      have hFinished := finished_handshake client {
          tlsConn := s, inner := tcp, tlsServerEndPoint := none,
          given := { offers := [], cipher := [], plain := [] } } trivial
      revert hKept hFinished
      rcases TlsTransport.handshake client.toRustls _ with ⟨_ | e | _, conn⟩
      · intro hKept hFinished
        refine ⟨s, conn, rfl, hKept, rfl, fun conn' h => ?_⟩
        cases h
        exact ⟨rfl, hFinished⟩
      · intro hKept hFinished
        exact ⟨s, conn, rfl, hKept, rfl, fun conn' h => by cases h⟩
      · intro hKept hFinished
        exact ⟨s, conn, rfl, hKept, rfl, fun conn' h => by cases h⟩

/-- Where a call leaves what was written as it is and opens no transport. -/
theorem OnlyTls.of_stopped {tcp : InnerTransport}
    {result : Outcome TransportError (PgTransport S) × InnerTransport}
    (hOpen : ∀ transport, result.1 ≠ .ok transport)
    (hSent : result.2.written = tcp.written ∨ result.2.written = tcp.written ++ sslRequest) :
    OnlyTls tcp result where
  opened transport h := absurd h (hOpen transport)
  sent := hSent.imp id fun h => ⟨[], by simpa using h, Or.inl rfl⟩

/-- The answer to the SSLRequest where it is the letter S. -/
theorem secured_onlyTls (config : TlsConfig) (tcp answered : InnerTransport)
    (hFault : answered.fault = none) (hWritten : answered.written = tcp.written ++ sslRequest)
    (hRead : wireBytes tcp.reads = 0x53 :: wireBytes answered.reads) :
    OnlyTls tcp ((do
      let client ← buildRustlsConfig config
      let conn ← handshake client config.serverName
      return .tls client (BufferedTransport.new conn) : Tcp S (PgTransport S))
        platform answered) := by
  rw [bind_apply]
  have hBuild := keeps_buildRustlsConfig platform config answered answered rfl
  rcases hClient : buildRustlsConfig config platform answered with ⟨client | e | _, tcp'⟩ <;>
    rw [hClient] at hBuild <;> dsimp only at hBuild <;> subst hBuild
  case err => exact .of_stopped (by simp) (Or.inr hWritten)
  case pending => exact .of_stopped (by simp) (Or.inr hWritten)
  rw [andThen_ok, bind_apply]
  obtain ⟨e, hFail⟩ | ⟨s, conn, hConnect, ⟨events, hWire, hPlain⟩, hInner, hDone⟩ :=
    handshake_cases platform client config.serverName tcp'
  · rw [hFail]
    exact .of_stopped (by simp) (Or.inr hWritten)
  · have hWritten' : conn.inner.written =
        tcp.written ++ sslRequest ++ events.flatMap SessionEvent.sent := by
      rw [hWire.sent, if_pos hFault, hWritten]
    have hSent : SentOnly S tcp conn.inner :=
      Or.inr ⟨_, hWritten', Or.inr ⟨client, config.serverName, s, _, events, hConnect,
        hWire.history, rfl⟩⟩
    rcases hShake : handshake client config.serverName platform tcp' with ⟨conn' | e | _, tcp''⟩ <;>
      rw [hShake] at hInner hDone <;> dsimp only at hInner <;> subst hInner
    · obtain ⟨rfl, hFinished⟩ := hDone conn' rfl
      refine ⟨fun transport hOpen => ?_, hSent⟩
      cases hOpen
      refine ⟨client, _, rfl, rfl, hFinished, ⟨rfl, rfl⟩, config.serverName, s, events, hConnect,
        hWire.history, ?_, hWritten', hPlain⟩
      rw [hRead, hWire.received]
      rfl
    · exact ⟨(by simp), hSent⟩
    · exact ⟨(by simp), hSent⟩

theorem negotiateTls_onlyTls (config : TlsConfig)
    (hMode : config.mode ≠ .disable ∧ config.mode ≠ .prefer) (tcp : InnerTransport) :
    OnlyTls tcp (negotiateTls config platform tcp) := by
  rw [negotiateTls, bind_apply]
  have hTime := keeps_checkTimeAvailable platform tcp tcp rfl
  rcases hCheck : (checkTimeAvailable : Tcp S Unit) platform tcp with ⟨_ | e | _, tcp₀⟩ <;>
    rw [hCheck] at hTime <;> dsimp only at hTime <;> subst hTime
  case err => exact .of_stopped (by simp) (Or.inl rfl)
  case pending => exact .of_stopped (by simp) (Or.inl rfl)
  cases hFault : tcp₀.fault with
  | some e =>
      simp only [andThen_ok, bind_apply, InnerTransport.writeAll, hFault, andThen_err]
      exact .of_stopped (by simp) (Or.inl rfl)
  | none =>
      simp only [andThen_ok, bind_apply, InnerTransport.writeAll, InnerTransport.flush,
        InnerTransport.readExact, hFault]
      rcases hAnswer : InnerTransport.takeExact tcp₀.reads 1 with ⟨response | e | _, rest⟩
      case err => exact .of_stopped (by simp) (Or.inr rfl)
      case pending => exact .of_stopped (by simp) (Or.inr rfl)
      obtain ⟨hBytes, _⟩ := takeExact_ok hAnswer
      rw [andThen_ok]
      split
      · exact secured_onlyTls platform config tcp₀ _ rfl rfl hBytes
      · cases hKind : config.mode with
        | disable => exact absurd hKind hMode.1
        | prefer => exact absurd hKind hMode.2
        | require => exact .of_stopped (by simp) (Or.inr rfl)
        | verifyCa => exact .of_stopped (by simp) (Or.inr rfl)
        | verifyFull => exact .of_stopped (by simp) (Or.inr rfl)
      · exact .of_stopped (readErrorReply_ne_ok platform _)
          (Or.inr (keeps_readErrorReply platform _ _ rfl))
      · exact .of_stopped (by simp) (Or.inr rfl)

/-- The length field of an error reply: what is read after it fits, and nothing wraps. -/
theorem errorReplyLen_exact (lenBuf : Bytes) (hBuf : lenBuf.length = 4) :
    match errorReplyLen platform.usizeBits lenBuf with
    | .ok len => (len : Int) + 4 = i32FromBeBytes lenBuf ∧ len + 4 ≤ maxSslNegotiationErrorLen
    | .error _ => i32FromBeBytes lenBuf < 4 ∨
        (maxSslNegotiationErrorLen : Int) < i32FromBeBytes lenBuf := by
  have hNat := BigEndian.nat_lt lenBuf
  rw [hBuf] at hNat
  have hRange := BigEndian.signed_range hNat
  change _ ∧ 2 * i32FromBeBytes lenBuf < _ at hRange
  have hPow : 256 ^ 4 ≤ 2 ^ platform.usizeBits :=
    calc 256 ^ 4 = 2 ^ 32 := by decide
      _ ≤ 2 ^ platform.usizeBits := Nat.pow_le_pow_right (by decide) platform.usizeBits_ge
  have hTwo : ((2 ^ platform.usizeBits : Nat) : Int) = 2 ^ platform.usizeBits := by simp
  have hWide : (256 : Int) ^ 4 ≤ 2 ^ platform.usizeBits := by
    rw [← hTwo]
    omega
  simp only [errorReplyLen]
  generalize i32FromBeBytes lenBuf = len at hRange ⊢
  by_cases hShort : len < 4
  · rw [if_pos hShort]
    exact Or.inl hShort
  · rw [if_neg hShort]
    have hCast : (asUsize platform.usizeBits len : Int) = len := by
      rw [asUsize, Int.emod_eq_of_lt (by omega) (by omega), Int.toNat_of_nonneg (by omega)]
    generalize asUsize platform.usizeBits len = size at hCast ⊢
    by_cases hLong : maxSslNegotiationErrorLen < size
    · rw [if_pos hLong]
      exact Or.inr (by omega)
    · rw [if_neg hLong]
      have hSub : usizeSub platform.usizeBits size 4 = size - 4 := by
        have hShift : size + 2 ^ platform.usizeBits - 4 = size - 4 + 2 ^ platform.usizeBits := by
          omega
        rw [usizeSub, hShift, Nat.add_mod_right, Nat.mod_eq_of_lt (by omega)]
      rw [hSub]
      omega

end Negotiation

/-- The two calls that open a transport. -/
inductive Route where
  | connect (config : Config)
  | cancel (token : CancelToken)

namespace Route

def sslMode : Route → SslMode
  | .connect config => config.sslMode
  | .cancel token => token.sslMode

def openTransport : Route → Tcp S (PgTransport S)
  | .connect config => applyTls config
  | .cancel token => token.openTransport

theorem openTransport_eq (route : Route) (h : route.sslMode ≠ .disable) :
    ∃ config, config.mode = route.sslMode ∧
      (route.openTransport : Tcp S (PgTransport S)) = negotiateTls config := by
  cases route with
  | connect config => exact ⟨_, rfl, if_neg h⟩
  | cancel token => exact ⟨_, rfl, if_pos h⟩

/-- Where TLS is required no plain transport is opened, the SSLRequest is all that is sent
in the clear, and what is read above an opened transport is what its session decrypted
after the handshake. The length of an error reply neither under- nor overflows. -/
theorem openTransport_onlyTls (platform : Platform S) (route : Route)
    (hMode : route.sslMode = .require ∨ route.sslMode = .verifyCa ∨ route.sslMode = .verifyFull)
    (tcp : InnerTransport) :
    OnlyTls tcp (route.openTransport platform tcp) ∧
    (∀ client t, (route.openTransport platform tcp).1 = .ok (.tls client t) →
      ∀ rounds us, ∃ parsed t' later, (PgTransport.tls client t).uses rounds us =
        (parsed, .tls client t') ∧
        OnWire client t.inner.tlsConn t.inner.inner later t'.inner ∧
        parsed ++ t'.readBuf = later.flatMap SessionEvent.parsed) ∧
    ∀ lenBuf : Bytes, lenBuf.length = 4 →
      match errorReplyLen platform.usizeBits lenBuf with
      | .ok len => (len : Int) + 4 = i32FromBeBytes lenBuf ∧ len + 4 ≤ maxSslNegotiationErrorLen
      | .error _ => i32FromBeBytes lenBuf < 4 ∨
          (maxSslNegotiationErrorLen : Int) < i32FromBeBytes lenBuf := by
  have hNot : route.sslMode ≠ .disable ∧ route.sslMode ≠ .prefer := by
    rcases hMode with h | h | h <;> rw [h] <;> decide
  obtain ⟨config, hConfig, hOpen⟩ := openTransport_eq (S := S) route hNot.1
  rw [← hConfig] at hNot
  rw [hOpen]
  have hOnly := negotiateTls_onlyTls platform config hNot tcp
  refine ⟨hOnly, fun client t hTls rounds us => ?_, errorReplyLen_exact platform⟩
  obtain ⟨client', t₁, hSame, _, hOpened⟩ := hOnly.opened _ hTls
  cases hSame
  have hStart : Parses client t.inner.tlsConn t.inner.inner ([], t) := by
    refine ⟨[], ⟨.nil, rfl, by simp, rfl⟩, ?_⟩
    rw [hOpened.nothingBuffered.1]
    rfl
  obtain ⟨later, hWire, hParsed⟩ :=
    parses_uses client t.inner.tlsConn t.inner.inner rounds us _ hStart
  exact ⟨_, _, later, rfl, hWire, hParsed.symm⟩

end Route

/-- What a session hands out on an open transport stays a part of what it handed out. -/
theorem SentOnly.later {tcp : InnerTransport} {client : ClientConnection S}
    {t t' : BufferedTransport (TlsTransport S)} (h : Opened client tcp t)
    (hLater : Parses client t.inner.tlsConn t.inner.inner ([], t')) :
    SentOnly S tcp t'.inner.inner := by
  obtain ⟨serverName, s, events, hConnect, hHistory, _, hWritten, _⟩ := h.wire
  obtain ⟨later, hWire, _⟩ := hLater
  have hSent := hWire.sent
  rw [hWritten] at hSent
  split at hSent
  · refine Or.inr ⟨(events ++ later).flatMap SessionEvent.sent, ?_, Or.inr ⟨client, serverName, s,
      _, events ++ later, hConnect, hHistory.append hWire.history, rfl⟩⟩
    simpa using hSent
  · exact Or.inr ⟨_, by simpa using hSent,
      Or.inr ⟨client, serverName, s, _, events, hConnect, hHistory, rfl⟩⟩

/-- Where TLS is required a whole cancellation sends nothing else in the clear either. -/
theorem cancelWithTimeout_sentOnly (platform : Platform S) (rounds : Nat) (token : CancelToken)
    (hMode : token.sslMode ≠ .disable ∧ token.sslMode ≠ .prefer) (tcp : InnerTransport) :
    SentOnly S tcp (token.cancelWithTimeout rounds platform tcp).2 := by
  have hOnly := negotiateTls_onlyTls platform token.buildTlsConfig hMode tcp
  rw [CancelToken.cancelWithTimeout, bind_apply, CancelToken.openTransport, if_pos hMode.1]
  rcases hOpen : negotiateTls token.buildTlsConfig platform tcp with ⟨transport | e | _, tcp'⟩ <;>
    rw [hOpen] at hOnly
  case err => exact hOnly.sent
  case pending => exact hOnly.sent
  obtain ⟨client, t, rfl, _, hOpened⟩ := hOnly.opened _ rfl
  have hStart : Parses client t.inner.tlsConn t.inner.inner ([], t) :=
    ⟨[], ⟨.nil, rfl, by simp, rfl⟩, by rw [hOpened.nothingBuffered.1]; rfl⟩
  refine SentOnly.later hOpened ?_
  refine keeps_bind (parses_writeAll client _ _ rounds _ []) (fun _ => ?_) t hStart
  refine keeps_bind (parses_flush client _ _ rounds []) fun _ => ?_
  exact keeps_bind (keeps_attempt (parses_shutdown client _ _ rounds [])) fun _ => keeps_pure _

namespace RecordSession

def platform : Platform RecordSession where
  usizeBits := 64
  usizeBits_ge := by decide
  timeAvailable := .ok ()
  protocolVersions := .ok ()
  rootStore _ := .ok ()
  clientAuth _ _ := .ok ()
  client _ _ _ := { session with sendCloseNotify := id }
  debugText text := text

theorem byte_nonempty (byte : UInt8) : [byte] ≠ [] := List.cons_ne_nil byte []

theorem byte_bounded (byte : UInt8) : [byte].length ≤ 8192 := by simp

def readByte (byte : UInt8) : InnerRead :=
  .data { bytes := [byte], nonempty := byte_nonempty byte, bounded := byte_bounded byte }

/-- The letter S and the server's flight in two reads. -/
def secured : InnerTransport where
  reads := [readByte 0x53, readByte 22]
  written := []
  fault := none

def required : Route := .connect { Config.new with sslMode := .require }

theorem openTransport_secured :
    (∃ client t, (required.openTransport platform secured).1 = .ok (.tls client t)) ∧
      OnlyTls secured (required.openTransport platform secured) :=
  ⟨⟨_, _, rfl⟩, (Route.openTransport_onlyTls platform required (Or.inl rfl) secured).1⟩

end RecordSession
end PgClient.Transport
