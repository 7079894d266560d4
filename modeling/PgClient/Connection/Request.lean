import PgClient.Connection.Exchange

/-!
What exactly a request leaves on the wire: all of its messages if the send succeeds, and
nothing at all if it fails before the buffer is flushed for the first time.
-/

namespace PgClient

open Async

namespace Transport

/-- The transport after a flush that succeeds. -/
def flushed (net : Network) (t : Transport) : Transport :=
  ({ t with writeBuf := [] } : Transport).deliverAll net (t.writeBuf.map Frame.message)

theorem flushed_of_nil {net : Network} {t : Transport} (h : t.writeBuf = []) :
    t.flushed net = t := by
  cases t
  simp_all [flushed]

theorem flushed_push (net : Network) (t : Transport) (frame : Frame) :
    (t.push frame).flushed net = (t.flushed net).deliver net frame.message := by
  simp [flushed, push, deliverAll_append]

theorem flushWrite_flushed {net : Network} {t t' : Transport} (h : t.flushWrite net = .ok t') :
    t' = t.flushed net :=
  flushWrite_ok h

theorem flushed_writeBuf (net : Network) (t : Transport) : (t.flushed net).writeBuf = [] :=
  deliverAll_writeBuf ..

theorem flushed_flushed (net : Network) (t : Transport) :
    (t.flushed net).flushed net = t.flushed net :=
  flushed_of_nil (flushed_writeBuf net t)

theorem flushed_history (net : Network) (t : Transport) :
    (t.flushed net).history = (t.writeBuf.map Frame.message).reverse ++ t.history :=
  deliverAll_history ..

theorem bufferedLen_push (t : Transport) (frame : Frame) :
    (t.push frame).bufferedLen = t.bufferedLen + frame.bytes.length := by
  simp [bufferedLen, push]

end Transport

/-- Messages are written up to the first flush: each is encoded, and the buffer reaches
its threshold or takes them all. -/
def Network.encodesToFlush (net : Network) : Nat → List FrontendMessage → Bool
  | _, [] => true
  | buffered, message :: messages =>
      match net.encode message with
      | .error _ => false
      | .ok bytes =>
          decide (Transport.writeBufferFlushThreshold ≤ buffered + bytes.length) ||
            net.encodesToFlush (buffered + bytes.length) messages

/-- A network on which every message can be encoded and no write or flush fails. -/
structure Network.Reliable (net : Network) : Prop where
  encodes : ∀ message, ∃ bytes, net.encode message = .ok bytes
  writes : ∀ history, net.writeError history = none
  flushes : ∀ history, net.flushError history = none

/-- A request gets past its encoding and the server is sent the first part of it. -/
structure Network.Accepts (net : Network) (history : List FrontendMessage)
    (messages : List FrontendMessage) : Prop where
  encodes : net.encodesToFlush 0 messages
  writes : net.writeError history = none

namespace Connection

section Exact

variable {net : Network} {base : Connection}

/-- A request that is sent has reached the server message by message, in order. -/
theorem triple_sendBatch_exact (t : Transport) (messages : List FrontendMessage) :
    Triple net (Framed base fun t' => t'.flushed net = t) (sendBatch messages)
      (fun _ => Framed base fun t' => t' = t.deliverAll net messages)
        (SendFailed base fun _ => True) := by
  have hBatch : Triple net (Framed base fun t' => t'.flushed net = t) (writeBatch messages)
      (fun _ => Framed base fun t' => t'.flushed net = t.deliverAll net messages)
      (SendFailed base fun _ => True) := by
    induction messages generalizing t with
    | nil => exact Triple.pure fun _ h => h
    | cons message messages ih =>
        apply Triple.bind_via (fun _ => Framed base fun t' =>
          t'.flushed net = t.deliver net message)
        · apply triple_encodeAndWrite
          · intro t' frame hMessage hFlushed
            rw [Transport.flushed_push, hFlushed, hMessage]
          · intro t' t'' frame hMessage hFlushed hFlush
            rw [Transport.flushWrite_flushed hFlush, Transport.flushed_flushed,
              Transport.flushed_push, hFlushed, hMessage]
          · exact fun _ _ => trivial
          · exact fun _ _ _ _ => trivial
        · exact fun _ => ih _
  have hFlush : Triple net (Framed base fun t' => t'.flushed net = t.deliverAll net messages) flush
      (fun _ => Framed base fun t' => t' = t.deliverAll net messages)
      (SendFailed base fun _ => True) := by
    refine triple_flush ?_ (fun _ _ => trivial) fun _ _ => trivial
    intro t' t'' hFlushed hFlush
    rw [Transport.flushWrite_flushed hFlush, hFlushed]
  exact Triple.bind hBatch fun _ => hFlush

end Exact

section Reach

variable {net : Network}

/-- The send of a message, as its encoding and the fate of the buffer decide it. -/
theorem encodeAndWrite_apply (message : FrontendMessage) (conn : Connection) :
    encodeAndWrite message net conn =
      match net.encode message with
      | .error e => (.err (AuthError.protocol e).toPgError, conn)
      | .ok bytes => writeAll { message, bytes } net conn := by
  simp only [encodeAndWrite, bind_apply, encode]
  cases net.encode message <;> rfl

/-- What a computation does depends on the transport of a connection and changes nothing
else. -/
def OnTransport (net : Network) (x : Client Unit) : Prop :=
  ∀ conn conn', conn'.transport = conn.transport →
    x net conn' = ((x net conn).1, { conn' with transport := (x net conn).2.transport })

theorem onTransport_bind {x : Client Unit} {f : Unit → Client Unit} (hx : OnTransport net x)
    (hf : OnTransport net (f ())) : OnTransport net (x >>= f) := by
  intro conn conn' h
  rw [bind_apply, bind_apply, hx conn conn' h]
  obtain ⟨outcome, conn₁⟩ := x net conn
  cases outcome with
  | ok value => exact hf conn₁ _ rfl
  | err e => rfl
  | pending => rfl

theorem onTransport_encodeAndWrite (message : FrontendMessage) :
    OnTransport net (encodeAndWrite message) := by
  intro conn conn' h
  rw [encodeAndWrite_apply, encodeAndWrite_apply]
  cases net.encode message with
  | error e => exact Prod.ext rfl (by simp [← h])
  | ok bytes =>
      simp only [writeAll, h]
      split
      · cases (conn.transport.push { message, bytes }).flushWrite net <;> rfl
      · rfl

theorem onTransport_flush : OnTransport net flush := by
  intro conn conn' h
  simp only [flush, h]
  cases conn.transport.flushWrite net with
  | error e => exact Prod.ext rfl (by simp [← h])
  | ok t =>
      dsimp only
      cases net.flushError t.history <;> rfl

theorem onTransport_sendBatch (messages : List FrontendMessage) :
    OnTransport net (sendBatch messages) := by
  refine onTransport_bind ?_ onTransport_flush
  induction messages with
  | nil => exact fun conn conn' h => Prod.ext rfl (by simp [writeBatch, ← h])
  | cons message messages ih => exact onTransport_bind (onTransport_encodeAndWrite message) ih

/-- How a write or a flush ends: never in a wait, and with the rest of the connection as
it was. -/
def Ends (base : Connection) (ok err : Transport → Prop) :
    Outcome PgError Unit × Connection → Prop
  | (.ok _, conn) => Framed base ok conn
  | (.err _, conn) => Framed base err conn
  | (.pending, _) => False

theorem Ends.mono {base : Connection} {ok ok' err err' : Transport → Prop}
    {result : Outcome PgError Unit × Connection} (h : Ends base ok err result)
    (hOk : ∀ t, ok t → ok' t) (hErr : ∀ t, err t → err' t) : Ends base ok' err' result := by
  obtain ⟨outcome, conn⟩ := result
  cases outcome with
  | ok => exact Framed.mono h hOk
  | err => exact Framed.mono h hErr
  | pending => exact h

/-- Two parts of a send, one after the other. -/
theorem Ends.bind {base conn : Connection} {ok err : Transport → Prop} {x : Client Unit}
    {f : Unit → Client Unit} (mid : Transport → Prop) (hx : Ends base mid err (x net conn))
    (hf : ∀ t, mid t → Ends base ok err (f () net { base with transport := t })) :
    Ends base ok err ((x >>= f) net conn) := by
  rw [bind_apply]
  revert hx
  obtain ⟨outcome, conn'⟩ := x net conn
  intro hx
  cases outcome with
  | ok =>
      obtain ⟨t, rfl, ht⟩ := hx
      exact hf t ht
  | err => exact hx
  | pending => exact hx

variable {base : Connection} {t : Transport}

/-- Writing a message, with the three ways it may go. -/
theorem ends_writeAll {frame : Frame} {ok err : Transport → Prop}
    (hShort : (t.push frame).bufferedLen < Transport.writeBufferFlushThreshold → ok (t.push frame))
    (hFlush : ∀ t', Transport.writeBufferFlushThreshold ≤ (t.push frame).bufferedLen →
      (t.push frame).flushWrite net = .ok t' → ok t')
    (hErr : ∀ e, Transport.writeBufferFlushThreshold ≤ (t.push frame).bufferedLen →
      (t.push frame).flushWrite net = .error e → err (t.push frame)) :
    Ends base ok err (writeAll frame net { base with transport := t }) := by
  simp only [writeAll]
  split
  case isFalse h => exact ⟨_, rfl, hShort (Nat.lt_of_not_le h)⟩
  case isTrue h =>
      cases hResult : (t.push frame).flushWrite net with
      | ok t' => exact ⟨t', rfl, hFlush t' h hResult⟩
      | error e => exact ⟨_, rfl, hErr e h hResult⟩

theorem ends_flush {ok err : Transport → Prop}
    (hFlush : ∀ t', t.flushWrite net = .ok t' → ok t' ∧ err t')
    (hErr : ∀ e, t.flushWrite net = .error e → err t) :
    Ends base ok err (flush net { base with transport := t }) := by
  simp only [flush]
  cases hResult : t.flushWrite net with
  | error e => exact ⟨t, rfl, hErr e hResult⟩
  | ok t' =>
      dsimp only
      cases net.flushError t'.history with
      | none => exact ⟨t', rfl, (hFlush t' hResult).1⟩
      | some e => exact ⟨t', rfl, (hFlush t' hResult).2⟩

theorem flushWrite_refused (hBuf : t.writeBuf ≠ []) (h : net.writeError t.history ≠ none)
    (t' : Transport) : t.flushWrite net ≠ .ok t' := by
  obtain ⟨e, he⟩ := Option.ne_none_iff_exists'.mp h
  simp [Transport.flushWrite, hBuf, he]

theorem flushWrite_accepted (h : net.writeError t.history = none) :
    t.flushWrite net = .ok (t.flushed net) := by
  by_cases hBuf : t.writeBuf = []
  · simp [Transport.flushWrite, hBuf, Transport.flushed_of_nil hBuf]
  · simp [Transport.flushWrite, hBuf, h, Transport.flushed]

theorem history_le_flushed : t.history.length ≤ (t.flushed net).history.length := by
  rw [Transport.flushed_history, List.length_append]
  exact Nat.le_add_left _ _

theorem history_lt_flushed (hBuf : t.writeBuf ≠ []) :
    t.history.length < (t.flushed net).history.length := by
  rw [Transport.flushed_history, List.length_append, List.length_reverse, List.length_map]
  exact Nat.lt_add_of_pos_left (List.length_pos_iff.mpr hBuf)

theorem push_writeBuf_ne_nil (t : Transport) (frame : Frame) : (t.push frame).writeBuf ≠ [] := by
  simp [Transport.push]

/-- A batch that is refused sends nothing; it fails at once or leaves that to its flush. -/
theorem writeBatch_refused {messages : List FrontendMessage}
    (hSome : t.writeBuf ≠ [] ∨ messages ≠ [])
    (hRefused : net.encodesToFlush t.bufferedLen messages → net.writeError t.history ≠ none) :
    Ends base
      (fun t' => t'.history = t.history ∧ t'.writeBuf ≠ [] ∧ net.writeError t.history ≠ none)
      (fun t' => t'.history = t.history) (writeBatch messages net
        { base with transport := t }) := by
  induction messages generalizing t with
  | nil => exact ⟨t, rfl, rfl, hSome.resolve_right fun h => h rfl, hRefused rfl⟩
  | cons message messages ih =>
      rw [Network.encodesToFlush] at hRefused
      rw [writeBatch]
      apply Ends.bind (fun t' => t'.history = t.history ∧ t'.writeBuf ≠ [] ∧
        (net.encodesToFlush t'.bufferedLen messages → net.writeError t.history ≠ none))
      · rw [encodeAndWrite_apply]
        cases hEncode : net.encode message with
        | error e => exact ⟨t, rfl, rfl⟩
        | ok bytes =>
            simp only [hEncode, Bool.or_eq_true, decide_eq_true_eq] at hRefused
            rw [← Transport.bufferedLen_push t { message, bytes }] at hRefused
            apply ends_writeAll
            · exact fun _ => ⟨rfl, push_writeBuf_ne_nil _ _, fun h => hRefused (.inr h)⟩
            · exact fun t' hFull hFlush => absurd hFlush
                (flushWrite_refused (push_writeBuf_ne_nil _ _) (hRefused (.inl hFull)) t')
            · exact fun _ _ _ => rfl
      · intro t' ht
        rw [← ht.1] at hRefused ⊢
        exact ih (.inl ht.2.1) (by rw [ht.1]; exact ht.2.2)

theorem sendBatch_refused (base : Connection) {messages : List FrontendMessage}
    (hBuf : t.writeBuf = [])
    (hSome : messages ≠ []) (hRefused : ¬ net.Accepts t.history messages) :
    Ends base (fun _ => False) (fun t' => t'.history = t.history)
      (sendBatch messages net { base with transport := t }) := by
  apply Ends.bind _ (writeBatch_refused (.inr hSome) ?_)
  · intro t' ht
    apply ends_flush
    · exact fun t'' hFlush => absurd hFlush (flushWrite_refused ht.2.1 (ht.1 ▸ ht.2.2) t'')
    · exact fun _ _ => ht.1
  · intro hEncodes hWrites
    exact hRefused ⟨by simpa [Transport.bufferedLen, hBuf] using hEncodes, hWrites⟩

/-- Once something has been sent it stays sent. -/
theorem writeBatch_grows {messages : List FrontendMessage} {n : Nat} (h : n < t.history.length) :
    Ends base (fun t' => n < t'.history.length) (fun t' => n < t'.history.length)
      (writeBatch messages net { base with transport := t }) := by
  induction messages generalizing t with
  | nil => exact ⟨t, rfl, h⟩
  | cons message messages ih =>
      rw [writeBatch]
      apply Ends.bind (fun t' => n < t'.history.length)
      · rw [encodeAndWrite_apply]
        cases net.encode message with
        | error e => exact ⟨t, rfl, h⟩
        | ok bytes =>
            apply ends_writeAll
            · exact fun _ => h
            · intro t' _ hFlush
              rw [Transport.flushWrite_flushed hFlush]
              exact Nat.lt_of_lt_of_le h (history_le_flushed (t := t.push _))
            · exact fun _ _ _ => h
      · exact fun t' ht => ih ht

theorem writeBatch_accepted {messages : List FrontendMessage}
    (hSome : t.writeBuf ≠ [] ∨ messages ≠ [])
    (hEncodes : net.encodesToFlush t.bufferedLen messages)
    (hWrites : net.writeError t.history = none) :
    Ends base
      (fun t' => t'.history = t.history ∧ t'.writeBuf ≠ [] ∨ t.history.length < t'.history.length)
      (fun t' => t.history.length < t'.history.length)
      (writeBatch messages net { base with transport := t }) := by
  induction messages generalizing t with
  | nil => exact ⟨t, rfl, .inl ⟨rfl, hSome.resolve_right fun h => h rfl⟩⟩
  | cons message messages ih =>
      rw [Network.encodesToFlush] at hEncodes
      rw [writeBatch]
      apply Ends.bind (fun t' => (t'.history = t.history ∧ t'.writeBuf ≠ [] ∧
        net.encodesToFlush t'.bufferedLen messages) ∨ t.history.length < t'.history.length)
      · rw [encodeAndWrite_apply]
        cases hEncode : net.encode message with
        | error e => simp [hEncode] at hEncodes
        | ok bytes =>
            simp only [hEncode, Bool.or_eq_true, decide_eq_true_eq] at hEncodes
            rw [← Transport.bufferedLen_push t { message, bytes }] at hEncodes
            apply ends_writeAll
            · intro hShort
              exact .inl ⟨rfl, push_writeBuf_ne_nil _ _,
                hEncodes.resolve_left (Nat.not_le_of_lt hShort)⟩
            · intro t' _ hFlush
              rw [Transport.flushWrite_flushed hFlush]
              exact .inr (history_lt_flushed (push_writeBuf_ne_nil t _))
            · intro e _ hFlush
              rw [flushWrite_accepted (t := t.push _) hWrites] at hFlush
              cases hFlush
      · intro t' ht
        cases ht with
        | inl hUnsent =>
            have hRest := ih (t := t') (.inl hUnsent.2.1) hUnsent.2.2 (hUnsent.1 ▸ hWrites)
            rw [hUnsent.1] at hRest
            exact hRest
        | inr hSent =>
            exact (writeBatch_grows hSent).mono (fun _ h => .inr h) fun _ h => h

theorem sendBatch_accepted (base : Connection) {messages : List FrontendMessage}
    (hBuf : t.writeBuf = [])
    (hSome : messages ≠ []) (hAccepts : net.Accepts t.history messages) :
    Ends base (fun t' => t.history.length < t'.history.length)
      (fun t' => t.history.length < t'.history.length)
      (sendBatch messages net { base with transport := t }) := by
  have hEncodes : net.encodesToFlush t.bufferedLen messages := by
    simpa [Transport.bufferedLen, hBuf] using hAccepts.encodes
  apply Ends.bind _ (writeBatch_accepted (.inr hSome) hEncodes hAccepts.writes)
  intro t' ht
  have hGrows : ∀ t'', t'.flushWrite net = .ok t'' → t.history.length < t''.history.length := by
    intro t'' hFlush
    rw [Transport.flushWrite_flushed hFlush]
    cases ht with
    | inl hUnsent =>
        rw [← hUnsent.1]
        exact history_lt_flushed hUnsent.2
    | inr hSent => exact Nat.lt_of_lt_of_le hSent history_le_flushed
  apply ends_flush
  · exact fun t'' hFlush => ⟨hGrows t'' hFlush, hGrows t'' hFlush⟩
  · intro e hFlush
    cases ht with
    | inl hUnsent =>
        rw [flushWrite_accepted (by rw [hUnsent.1]; exact hAccepts.writes)] at hFlush
        cases hFlush
    | inr hSent => exact hSent

/-- On a network that never fails a request is sent whole. -/
theorem sendBatch_reliable (hNet : net.Reliable) (base : Connection) (t : Transport)
    (messages : List FrontendMessage) :
    sendBatch messages net { base with transport := t } =
      (.ok (), { base with transport := (t.flushed net).deliverAll net messages }) := by
  have hBatch : Ends base (fun t' => t'.flushed net = (t.flushed net).deliverAll net messages)
      (fun _ => False) (writeBatch messages net { base with transport := t }) := by
    induction messages generalizing t with
    | nil => exact ⟨t, rfl, rfl⟩
    | cons message messages ih =>
        obtain ⟨bytes, hEncode⟩ := hNet.encodes message
        rw [writeBatch]
        apply Ends.bind (fun t' => t'.flushed net = (t.flushed net).deliver net message)
        · rw [encodeAndWrite_apply, hEncode]
          apply ends_writeAll
          · exact fun _ => Transport.flushed_push ..
          · intro t' _ hFlush
            rw [Transport.flushWrite_flushed hFlush, Transport.flushed_flushed,
              Transport.flushed_push]
          · intro e _ hFlush
            rw [flushWrite_accepted (hNet.writes _)] at hFlush
            cases hFlush
        · intro t' ht
          rw [Transport.deliverAll_cons, ← ht]
          exact ih t'
  have hEnd : Ends base (fun t' => t' = (t.flushed net).deliverAll net messages) (fun _ => False)
      (sendBatch messages net { base with transport := t }) := by
    apply Ends.bind _ hBatch
    intro t' ht
    rw [flush]
    simp only [flushWrite_accepted (hNet.writes _), hNet.flushes]
    exact ⟨_, rfl, ht⟩
  revert hEnd
  obtain ⟨outcome, conn⟩ := sendBatch messages net { base with transport := t }
  intro hEnd
  cases outcome with
  | ok value =>
      obtain ⟨t', rfl, rfl⟩ := hEnd
      rfl
  | err e =>
      obtain ⟨_, _, hFalse⟩ := hEnd
      exact hFalse.elim
  | pending => exact hEnd.elim

end Reach

end Connection
end PgClient
