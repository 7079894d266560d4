import PgClient.Replies.Stream

/-!
One statement of the simple protocol on any network: how far its reply can be read, and
what that makes of the connection.
-/

namespace PgClient

open Drive Async Connection

/-- Everything of a connection that asynchronous messages leave alone. -/
structure Core where
  transport : Transport
  state : ConnectionState
  transactionStatus : TransactionStatus
  statementCounter : UInt32
  needsRecovery : Bool
  sessionState : SessionState
deriving DecidableEq, Repr

def Connection.core (conn : Connection) : Core where
  transport := conn.transport
  state := conn.state
  transactionStatus := conn.transactionStatus
  statementCounter := conn.statementCounter
  needsRecovery := conn.needsRecovery
  sessionState := conn.sessionState

/-- How the reading of a reply ends: at its `ReadyForQuery`, with an error of the server
before it or not; at a message that cannot be read; or for want of messages. -/
inductive ReplyReading where
  | complete (status : UInt8) (rest : List Entry)
  | failed (status : UInt8) (rest : List Entry)
  | broken (rest : List Entry)
  | short
deriving DecidableEq, Repr

/-- What is left of a reply after an error of the server. -/
def skipReply : List Entry → ReplyReading
  | [] => .short
  | .error _ :: rest => .broken rest
  | .ok (.readyForQuery status) :: rest => .failed status rest
  | .ok _ :: rest => skipReply rest

/-- A stream finishes at a `ReadyForQuery` only. -/
def endReply (rest : List Entry) : BackendMessage → ReplyReading
  | .readyForQuery status => .complete status rest
  | _ => .broken rest

/-- The messages that a stream is given until it is at its end. -/
def RowStream.readReply (stream : RowStream) : List Entry → ReplyReading
  | [] => .short
  | .error _ :: rest => .broken rest
  | .ok message :: rest =>
      match localStep nextBody stream message with
      | .next stream' => readReply stream' rest
      | .exit (.ok (.row _)) stream' => readReply stream' rest
      | .exit (.ok .finished) _ => endReply rest message
      | .exit (.ok (.serverError body)) _ =>
          if body.fields.isOk then skipReply rest else .broken rest
      | .exit (.error _) _ => .broken rest

namespace Core

/-- Reading messages up to the rest. -/
def read (core : Core) (rest : List Entry) : Core := { core with transport.inbox := rest }

/-- The end of a reply without an error. -/
def ready (core : Core) (status : UInt8) (rest : List Entry) : Core :=
  { core.read rest with state := .idle, transactionStatus := .ofReady status }

/-- The end of a reply that is skipped. -/
def skipped (core : Core) (status : UInt8) (rest : List Entry) : Core :=
  { core.ready status rest with
    sessionState := core.sessionState.setInTransaction (TransactionStatus.ofReady status ≠ .idle) }

end Core

namespace Connection

theorem core_of_handleAsyncMessage {conn conn' : Connection} {message : BackendMessage}
    (h : conn.handleAsyncMessage message = some conn') : conn'.core = conn.core := by
  cases message with
  | noticeResponse body =>
      simp only [handleAsyncMessage] at h
      split at h <;> cases h <;> rfl
  | parameterStatus body =>
      simp only [handleAsyncMessage] at h
      split at h <;> cases h <;> rfl
  | notificationResponse body =>
      cases h
      rfl
  | _ => cases h

theorem core_setInbox (conn : Connection) (rest : List Entry) :
    (conn.setInbox rest).core = conn.core.read rest := rfl

/-- The loop that skips a reply has come to what `skipReply` says. -/
def SkipsTo (core : Core) (reading : ReplyReading) :
    Stop (Unit × Connection) Entry (Except PgError Unit) → Prop
  | .waiting s => reading = .short ∧ s.2.core = core
  | .done (.ok ()) s rest => ∃ status, reading = .failed status rest ∧
      (s.2.setInbox rest).core = core.skipped status rest
  | .done (.error e) s rest => reading = .broken rest ∧ s.2.core = core ∧ e.endsReply = false

theorem drive_readUntilReady (entries : List Entry) (conn : Connection) :
    SkipsTo conn.core (skipReply entries) (drive (readStep readUntilReadyBody)
      ((), conn) entries) := by
  induction entries generalizing conn with
  | nil => exact ⟨rfl, rfl⟩
  | cons entry entries ih =>
      cases entry with
      | error e => exact ⟨rfl, rfl, e.toPgError_endsReply⟩
      | ok message =>
          have hSkip : ∀ conn', conn'.core = conn.core →
              readStep readUntilReadyBody ((), conn) (.ok message) = .next ((), conn') →
              skipReply (.ok message :: entries) = skipReply entries →
              SkipsTo conn.core (skipReply (.ok message :: entries))
                (drive (readStep readUntilReadyBody) ((), conn) (.ok message :: entries)) := by
            intro conn' hCore hStep hSkip
            rw [drive_cons_next _ entries hStep, hSkip, ← hCore]
            exact ih conn'
          cases hAsync : conn.handleAsyncMessage message with
          | some conn' =>
              apply hSkip conn' (core_of_handleAsyncMessage hAsync)
              · simp only [readStep, readUntilReadyBody, asyncFirst, hAsync]
              · cases message <;> first | rfl | cases hAsync
          | none =>
              cases message with
              | readyForQuery status => exact ⟨status, rfl, rfl⟩
              | parameterStatus | noticeResponse | notificationResponse =>
                  rw [← Option.not_isSome_iff_eq_none, handleAsyncMessage_isSome] at hAsync
                  exact absurd rfl hAsync
              | _ => exact hSkip conn rfl rfl rfl

end Connection

namespace RowStream

/-- The loop of `next` on a stream has come to what `readReply` says. -/
def ReadsTo (core : Core) (reading : ReplyReading) (entries : List Entry) :
    Stop (RowStream × Connection) Entry (Except PgError Event) → Prop
  | .waiting s => reading = .short ∧ s.2.core = core ∧ s.1.isDone = false
  | .done (.ok (.row _)) s rest => reading = s.1.readReply rest ∧ s.2.core = core ∧
      s.1.isDone = false ∧ rest.length < entries.length
  | .done (.ok .finished) s rest => ∃ status, reading = .complete status rest ∧
      (s.2.setInbox rest).core = core.ready status rest ∧ s.1.isDone
  | .done (.ok (.serverError body)) s rest =>
      reading = (if body.fields.isOk then skipReply rest else .broken rest) ∧ s.2.core = core ∧
        s.1.isDone = false
  | .done (.error e) s rest => reading = .broken rest ∧ s.2.core = core ∧ s.1.isDone = false ∧
      e.endsReply = false

/-- One message, as the loop and `readReply` take it. -/
inductive Takes (stream : RowStream) (conn : Connection) (message : BackendMessage) : Prop where
  | next (stream' : RowStream) (conn' : Connection) (hCore : conn'.core = conn.core)
      (hOpen : stream'.isDone = false) (hLocal : localStep nextBody stream message = .next stream')
      (hStep : nextBody (stream, conn) message = .next (stream', conn'))
  | row (row : Row) (hLocal : localStep nextBody stream message = .exit (.ok (.row row)) stream)
      (hStep : nextBody (stream, conn) message = .exit (.ok (.row row)) (stream, conn))
  | finished (status : UInt8) (stream' : RowStream) (hMessage : message = .readyForQuery status)
      (hDone : stream'.isDone)
      (hLocal : localStep nextBody stream message = .exit (.ok .finished) stream')
      (hStep : nextBody (stream, conn) message =
        .exit (.ok .finished) (stream', (conn.setReady status).setState .idle))
  | serverError (body : ErrorBody)
      (hLocal : localStep nextBody stream message = .exit (.ok (.serverError body)) stream)
      (hStep : nextBody (stream, conn) message = .exit (.ok (.serverError body)) (stream, conn))
  | malformed (e : PgError) (hError : e.endsReply = false)
      (hLocal : localStep nextBody stream message = .exit (.error e) stream)
      (hStep : nextBody (stream, conn) message = .exit (.error e) (stream, conn))

theorem takes (stream : RowStream) (hOpen : stream.isDone = false) (conn : Connection)
    (message : BackendMessage) : Takes stream conn message := by
  cases hAsync : conn.handleAsyncMessage message with
  | some conn' =>
      refine .next stream conn' (core_of_handleAsyncMessage hAsync) hOpen ?_ ?_
      · apply detached_next.async
        rw [← handleAsyncMessage_isSome, hAsync]
        rfl
      · simp only [nextBody, asyncFirst, hAsync]
  | none =>
      have hNone : Connection.new.handleAsyncMessage message = none := by
        rw [← Option.not_isSome_iff_eq_none, handleAsyncMessage_isSome] at hAsync ⊢
        exact hAsync
      obtain ⟨columns, state⟩ := stream
      cases message with
      | parameterStatus | noticeResponse | notificationResponse =>
          rw [← Option.not_isSome_iff_eq_none, handleAsyncMessage_isSome] at hAsync
          exact absurd rfl hAsync
      | rowDescription fields =>
          cases state with
          | waitingForDescription =>
              cases fields with
              | ok fields => exact .next _ conn rfl rfl rfl rfl
              | error e => exact .malformed _ rfl rfl rfl
          | done | error => cases hOpen
          | _ => exact .next _ conn rfl rfl rfl rfl
      | dataRow values =>
          cases state with
          | receivingRows =>
              cases values with
              | ok values => exact .row _ rfl rfl
              | error e => exact .malformed _ rfl rfl rfl
          | done | error => cases hOpen
          | _ => exact .next _ conn rfl rfl rfl rfl
      | readyForQuery status =>
          cases state with
          | finishing tag => exact .finished status _ rfl rfl rfl rfl
          | done | error => cases hOpen
          | _ => exact .next _ conn rfl rfl rfl rfl
      | errorResponse body =>
          cases state with
          | done | error => cases hOpen
          | _ => exact .serverError body rfl rfl
      | _ =>
          cases state with
          | done | error => cases hOpen
          | _ => exact .next _ conn rfl rfl rfl rfl

theorem drive_nextBody (entries : List Entry) {stream : RowStream} (hOpen : stream.isDone = false)
    (conn : Connection) :
    ReadsTo conn.core (stream.readReply entries) entries
      (drive (readStep nextBody) (stream, conn) entries) := by
  induction entries generalizing stream conn with
  | nil => exact ⟨rfl, rfl, hOpen⟩
  | cons entry entries ih =>
      cases entry with
      | error e => exact ⟨rfl, rfl, hOpen, e.toPgError_endsReply⟩
      | ok message =>
          cases takes stream hOpen conn message with
          | next stream' conn' hCore hOpen' hLocal hStep =>
              have hRest := ih hOpen' conn'
              rw [drive_cons_next (readStep nextBody) entries
                (show readStep nextBody (stream, conn) (.ok message) = .next
                  (stream', conn') from hStep),
                readReply, hLocal, ← hCore]
              revert hRest
              cases drive (readStep nextBody) (stream', conn') entries with
              | waiting s => exact id
              | done result s rest =>
                  cases result with
                  | error e => exact id
                  | ok event =>
                      cases event with
                      | row row =>
                          intro hRest
                          exact ⟨hRest.1, hRest.2.1, hRest.2.2.1, Nat.lt_succ_of_lt hRest.2.2.2⟩
                      | finished => exact id
                      | serverError body => exact id
          | row row hLocal hStep =>
              rw [drive_cons_exit (readStep nextBody) entries
                (show readStep nextBody (stream, conn) (.ok message) =
                  .exit (.ok (.row row)) (stream, conn) from hStep), readReply, hLocal]
              exact ⟨rfl, rfl, hOpen, Nat.lt_succ_self _⟩
          | finished status stream' hMessage hDone hLocal hStep =>
              rw [drive_cons_exit (readStep nextBody) entries
                (show readStep nextBody (stream, conn) (.ok message) =
                  .exit (.ok .finished) (stream',
                    (conn.setReady status).setState .idle) from hStep),
                readReply, hLocal, hMessage]
              exact ⟨status, rfl, rfl, hDone⟩
          | serverError body hLocal hStep =>
              rw [drive_cons_exit (readStep nextBody) entries
                (show readStep nextBody (stream, conn) (.ok message) =
                  .exit (.ok (.serverError body)) (stream, conn) from hStep), readReply, hLocal]
              exact ⟨rfl, rfl, hOpen⟩
          | malformed e hError hLocal hStep =>
              rw [drive_cons_exit (readStep nextBody) entries
                (show readStep nextBody (stream, conn) (.ok message) =
                  .exit (.error e) (stream, conn) from hStep), readReply, hLocal]
              exact ⟨rfl, rfl, hOpen, hError⟩

section Drain

variable {α : Type} {net : Network}

/-- Where reading a reply leaves a stream and its connection. -/
def Drained (core : Core) (ending : Option ReadError) :
    ReplyReading → Outcome PgError α × (RowStream × Connection) → Prop
  | .complete status rest, result => (∃ a, result.1 = .ok a) ∧ result.2.1.isDone ∧
      result.2.2.core = core.ready status rest
  | .failed status rest, result => (∃ e, result.1 = .err (.server e)) ∧ result.2.1.isDone ∧
      result.2.2.core = core.skipped status rest
  | .broken rest, result => (∃ e, result.1 = .err e ∧ e.endsReply = false) ∧
      result.2.1.isDone = false ∧ result.2.2.core = core.read rest
  | .short, result => (result.1 = .pending ∧ ending = none ∨
      ∃ e, result.1 = .err e ∧ e.endsReply = false ∧ ending.isSome) ∧
      result.2.1.isDone = false ∧ result.2.2.core = core.read []

/-- A loop that runs out of messages fails when the stream has ended and waits else. -/
theorem messageLoop_short {L β : Type}
    {body : L × Connection → BackendMessage → Step (L × Connection) (Except PgError β)}
    (net : Network) {s s' : L × Connection}
    (hDrive : drive (readStep body) s s.2.transport.inbox = .waiting s') :
    ∃ outcome, messageLoop body net s = (outcome, (s'.1, s'.2.setInbox [])) ∧
      (outcome = .pending ∧ s.2.transport.ending = none ∨
        ∃ e, outcome = .err e ∧ e.endsReply = false ∧ s.2.transport.ending.isSome) := by
  simp only [messageLoop, hDrive]
  cases hEnding : s.2.transport.ending with
  | none => exact ⟨.pending, rfl, .inl ⟨rfl, rfl⟩⟩
  | some e => exact ⟨_, rfl, .inr ⟨_, rfl, e.toPgError_endsReply, rfl⟩⟩

/-- Skipping the rest of a reply whose error has been met. -/
theorem drained_serverError {stream : RowStream} (hOpen : stream.isDone = false)
    (conn : Connection) (body : ErrorBody) :
    Drained conn.core conn.transport.ending
      (if body.fields.isOk then skipReply conn.transport.inbox else .broken conn.transport.inbox)
      ((do
        let serverErr ← .onSnd (drainServerError body)
        .modify fun (stream, conn) => ({ stream with state := .error }, conn)
        .fail (.server serverErr) : Owner RowStream α) net (stream, conn)) := by
  cases hFields : body.fields with
  | error e =>
      have hLift : (lift (ioResult (PgServerError.fromBody body)) : Client PgServerError) net conn =
          (.err (.io e), conn) := by
        simp [PgServerError.fromBody, hFields, Except.map, ioResult]
      have hDrain : drainServerError body net conn = (.err (.io e), conn) := by
        rw [drainServerError, bind_apply, hLift, andThen_err]
      rw [bind_apply, onSnd_apply, hDrain, andThen_err]
      exact ⟨⟨_, rfl, rfl⟩, hOpen, rfl⟩
  | ok fields =>
      have hLift : (lift (ioResult (PgServerError.fromBody body)) : Client PgServerError) net conn =
          (.ok (PgServerError.fromFields fields), conn) := by
        simp [PgServerError.fromBody, hFields, Except.map, ioResult]
      have hSkip := drive_readUntilReady conn.transport.inbox conn
      rw [bind_apply, onSnd_apply, drainServerError, bind_of_ok hLift, bind_apply, readUntilReady,
        withLocal_apply]
      cases hDrive : drive (readStep readUntilReadyBody) ((), conn) conn.transport.inbox with
      | waiting s =>
          rw [hDrive] at hSkip
          obtain ⟨outcome, hLoop, hEnd⟩ := messageLoop_short net hDrive
          rw [hLoop]
          simp only [Except.isOk, Except.toBool, if_true, hSkip.1]
          obtain ⟨rfl, hEnding⟩ | ⟨e, rfl, hError, hEnding⟩ := hEnd
          · exact ⟨.inl ⟨rfl, hEnding⟩, hOpen, by rw [← hSkip.2]; rfl⟩
          · exact ⟨.inr ⟨e, rfl, hError, hEnding⟩, hOpen, by rw [← hSkip.2]; rfl⟩
      | done result s rest =>
          rw [hDrive] at hSkip
          simp only [messageLoop, hDrive]
          cases result with
          | error e =>
              obtain ⟨hReading, hCore, hError⟩ := hSkip
              simp only [Except.isOk, Except.toBool, if_true, hReading]
              exact ⟨⟨e, rfl, hError⟩, hOpen, by rw [← hCore]; rfl⟩
          | ok value =>
              obtain ⟨status, hReading, hCore⟩ := hSkip
              simp only [Except.isOk, Except.toBool, if_true, hReading]
              refine ⟨⟨_, rfl⟩, rfl, ?_⟩
              rw [← hCore]
              have hState : (s.2.setInbox rest).core.state = .idle := by rw [hCore]; rfl
              simp only [core] at hState
              simp [core, setState, hState]

/-- Code after an error of the server is not reached. -/
theorem serverError_bind {β : Type} (body : ErrorBody) (f : α → Owner RowStream β) :
    (do
        let serverErr ← .onSnd (drainServerError body)
        .modify fun (stream, conn) => ({ stream with state := .error }, conn)
        .fail (.server serverErr) : Owner RowStream α) >>= f =
      (do
        let serverErr ← .onSnd (drainServerError body)
        .modify fun (stream, conn) => ({ stream with state := .error }, conn)
        .fail (.server serverErr) : Owner RowStream β) := by
  simp only [bind_assoc]
  rfl

theorem drained_drainLoop (fuel : Nat) (rows : List Row) {stream : RowStream}
    (hOpen : stream.isDone = false) {conn : Connection}
    (hFuel : conn.transport.inbox.length < fuel) :
    Drained conn.core conn.transport.ending (stream.readReply conn.transport.inbox)
      (drainLoop fuel rows net (stream, conn)) := by
  induction fuel generalizing rows stream conn with
  | zero => exact absurd hFuel (Nat.not_lt_zero _)
  | succ fuel ih =>
      have hReads := drive_nextBody conn.transport.inbox hOpen conn
      rw [drainLoop, bind_apply, next_eq hOpen, bind_apply]
      cases hDrive : drive (readStep nextBody) (stream, conn) conn.transport.inbox with
      | waiting s =>
          rw [hDrive] at hReads
          obtain ⟨hReading, hCore, hOpen'⟩ := hReads
          obtain ⟨outcome, hLoop, hEnd⟩ := messageLoop_short net hDrive
          rw [hLoop, hReading]
          obtain ⟨rfl, hEnding⟩ | ⟨e, rfl, hError, hEnding⟩ := hEnd
          · exact ⟨.inl ⟨rfl, hEnding⟩, hOpen', by rw [← hCore]; rfl⟩
          · exact ⟨.inr ⟨e, rfl, hError, hEnding⟩, hOpen', by rw [← hCore]; rfl⟩
      | done result s rest =>
          rw [hDrive] at hReads
          have hLoop : messageLoop nextBody net (stream, conn) =
              (Outcome.ofExcept result, (s.1, s.2.setInbox rest)) := by
            simp only [messageLoop, hDrive]
          rw [hLoop]
          cases result with
          | error e =>
              obtain ⟨hReading, hCore, hOpen', hError⟩ := hReads
              rw [hReading]
              exact ⟨⟨e, rfl, hError⟩, hOpen', by rw [← hCore]; rfl⟩
          | ok event =>
              cases event with
              | row row =>
                  -- the row is kept and the loop goes on with the rest
                  obtain ⟨hReading, hCore, hOpen', hLength⟩ := hReads
                  have hRest : (s.2.setInbox rest).transport.inbox.length < fuel :=
                    Nat.lt_of_lt_of_le hLength (Nat.le_of_lt_succ hFuel)
                  have hLater := ih (rows ++ [row]) hOpen' hRest
                  have hEnding : s.2.transport.ending = conn.transport.ending :=
                    congrArg (fun core => core.transport.ending) hCore
                  rw [core_setInbox, hCore,
                    show (s.2.setInbox rest).transport.ending = conn.transport.ending from hEnding]
                    at hLater
                  rw [hReading]
                  exact hLater
              | finished =>
                  obtain ⟨status, hReading, hCore, hDone⟩ := hReads
                  rw [hReading]
                  exact ⟨⟨_, rfl⟩, hDone, hCore⟩
              | serverError body =>
                  obtain ⟨hReading, hCore, hOpen'⟩ := hReads
                  have hEnding : s.2.transport.ending = conn.transport.ending :=
                    congrArg (fun core => core.transport.ending) hCore
                  have hSkip := @drained_serverError (List Row) net s.1 hOpen'
                    (s.2.setInbox rest) body
                  rw [hReading]
                  rw [← serverError_bind (α := Option Row)] at hSkip
                  rw [core_setInbox, hCore,
                    show (s.2.setInbox rest).transport.ending = conn.transport.ending from hEnding]
                    at hSkip
                  exact hSkip

end Drain

end RowStream

/-- What the server has been sent once a message is flushed. -/
def Transport.sent (net : Network) (t : Transport) (message : FrontendMessage) : Transport :=
  (t.flushed net).deliver net message

/-- What a send may leave: nothing, a message in the buffer, or one that went out. -/
inductive Transport.AfterSend (net : Network) (t : Transport) (message : FrontendMessage) :
    Transport → Prop where
  | nothing : AfterSend net t message t
  | buffered (bytes : Bytes) : AfterSend net t message (t.push { message, bytes })
  | flushed : AfterSend net t message (t.sent net message)

/-- A message can be encoded and the network takes it. -/
def Network.sends (net : Network) (t : Transport) (message : FrontendMessage) : Bool :=
  (net.encode message).isOk && (net.writeError t.history).isNone &&
    (net.flushError (t.sent net message).history).isNone

def Core.sent (net : Network) (core : Core) (message : FrontendMessage) : Core :=
  { core with transport := core.transport.sent net message }

/-- A statement that has failed before its reply was read. -/
def Core.interrupted (core : Core) (rest : List Entry) : Core :=
  { core.read rest with state := .streaming, needsRecovery := true }

namespace Connection

section Execute

variable {α : Type} {net : Network}

/-- What one statement comes to on an idle connection. -/
def Executed (net : Network) (sql : String) (core : Core)
    (result : Outcome PgError α × Connection) :
    Prop :=
  if net.sends core.transport (.query sql) then
    match RowStream.newSimple.readReply (core.transport.sent net (.query sql)).inbox with
    | .complete status rest => (∃ a, result.1 = .ok a) ∧
        result.2.core = (core.sent net (.query sql)).ready status rest
    | .failed status rest => (∃ e, result.1 = .err (.server e)) ∧
        result.2.core = (core.sent net (.query sql)).skipped status rest
    | .broken rest => (∃ e, result.1 = .err e ∧ e.endsReply = false) ∧
        result.2.core = (core.sent net (.query sql)).interrupted rest
    | .short => (result.1 = .pending ∨ ∃ e, result.1 = .err e ∧ e.endsReply = false ∧
          (core.transport.sent net (.query sql)).ending.isSome) ∧
        result.2.core = (core.sent net (.query sql)).interrupted []
  else
    (∃ e, result.1 = .err e ∧ e.endsReply = false) ∧
      ∃ t, core.transport.AfterSend net (.query sql) t ∧
        result.2.core = { core with transport := t, state := .streaming }

theorem Executed.map {β : Type} (f : α → β) {sql : String} {core : Core} {x : Client α}
    {conn : Connection} (h : Executed net sql core (x net conn)) :
    Executed net sql core ((f <$> x) net conn) := by
  rw [map_apply]
  revert h
  unfold Executed
  cases net.sends core.transport (.query sql) with
  | false =>
      intro h
      obtain ⟨⟨e, hOutcome, hError⟩, hCore⟩ := h
      exact ⟨⟨e, by simp [hOutcome], hError⟩, hCore⟩
  | true =>
      dsimp only [if_true]
      cases RowStream.newSimple.readReply (core.transport.sent net (.query sql)).inbox with
      | complete status rest =>
          intro h
          obtain ⟨⟨a, hOutcome⟩, hCore⟩ := h
          exact ⟨⟨f a, by simp [hOutcome]⟩, hCore⟩
      | failed status rest =>
          intro h
          obtain ⟨⟨e, hOutcome⟩, hCore⟩ := h
          exact ⟨⟨e, by simp [hOutcome]⟩, hCore⟩
      | broken rest =>
          intro h
          obtain ⟨⟨e, hOutcome, hError⟩, hCore⟩ := h
          exact ⟨⟨e, by simp [hOutcome], hError⟩, hCore⟩
      | short =>
          intro h
          obtain ⟨hOutcome | ⟨e, hOutcome, hError, hEnding⟩, hCore⟩ := h
          · exact ⟨.inl (by simp [hOutcome]), hCore⟩
          · exact ⟨.inr ⟨e, by simp [hOutcome], hError, hEnding⟩, hCore⟩

theorem send_cases (net : Network) (message : FrontendMessage) (conn : Connection) :
    if net.sends conn.transport message then
      send message net conn = (.ok (), { conn with transport := conn.transport.sent net message })
    else ∃ e t, send message net conn = (.err e, { conn with transport := t }) ∧
      e.endsReply = false ∧ conn.transport.AfterSend net message t := by
  rw [send, bind_apply, encodeAndWrite_apply]
  cases hEncode : net.encode message with
  | error e =>
      obtain ⟨ioError, rfl⟩ := Network.encode_error hEncode
      rw [if_neg (by simp [Network.sends, hEncode, Except.isOk, Except.toBool])]
      exact ⟨_, conn.transport, rfl, rfl, .nothing⟩
  | ok bytes =>
      have hBuf := push_writeBuf_ne_nil conn.transport { message, bytes }
      have hIsOk : (net.encode message).isOk := by simp [hEncode, Except.isOk, Except.toBool]
      simp only [writeAll]
      cases hWrite : net.writeError conn.transport.history with
      | some e =>
          have hRefused : (conn.transport.push { message, bytes }).flushWrite net = .error e := by
            rw [Transport.flushWrite, if_neg hBuf,
              show net.writeError (conn.transport.push { message, bytes }).history =
                some e from hWrite]
          rw [if_neg (by simp [Network.sends, hWrite])]
          refine ⟨.transport e, conn.transport.push { message, bytes }, ?_, rfl, .buffered bytes⟩
          split
          · rw [hRefused]
            rfl
          · rw [andThen_ok, flush]
            simp only [hRefused]
      | none =>
          have hAccepted : (conn.transport.push { message, bytes }).flushWrite net =
              .ok (conn.transport.sent net message) := by
            rw [flushWrite_accepted (t := conn.transport.push _) hWrite, Transport.flushed_push]
            rfl
          have hEmpty : (conn.transport.sent net message).writeBuf = [] := by
            rw [Transport.sent, Transport.deliver_writeBuf, Transport.flushed_writeBuf]
          cases hFlush : net.flushError (conn.transport.sent net message).history with
          | some e =>
              rw [if_neg (by simp [Network.sends, hFlush])]
              refine ⟨.transport e, conn.transport.sent net message, ?_, rfl, .flushed⟩
              split
              · rw [hAccepted, andThen_ok, flush]
                simp only [Transport.flushWrite, if_pos hEmpty, hFlush]
              · rw [andThen_ok, flush]
                simp only [hAccepted, hFlush]
          | none =>
              rw [if_pos (by simp [Network.sends, hIsOk, hWrite, hFlush])]
              split
              · rw [hAccepted, andThen_ok, flush]
                simp only [Transport.flushWrite, if_pos hEmpty, hFlush]
              · rw [andThen_ok, flush]
                simp only [hAccepted, hFlush]

/-- What collecting the rows of a stream comes to, after which the stream is dropped. -/
theorem collect_core (net : Network) {stream : RowStream} (hOpen : stream.isDone = false)
    (conn : Connection) :
    match stream.readReply conn.transport.inbox with
    | .complete status rest => (∃ result, (collect stream net conn).1 = .ok result) ∧
        (collect stream net conn).2.core = conn.core.ready status rest
    | .failed status rest => (∃ e, (collect stream net conn).1 = .err (.server e)) ∧
        (collect stream net conn).2.core = conn.core.skipped status rest
    | .broken rest => (∃ e, (collect stream net conn).1 = .err e ∧ e.endsReply = false) ∧
        (collect stream net conn).2.core = { conn.core.read rest with needsRecovery := true }
    | .short => ((collect stream net conn).1 = .pending ∨ ∃ e,
          (collect stream net conn).1 = .err e ∧ e.endsReply = false ∧
            conn.transport.ending.isSome) ∧
        (collect stream net conn).2.core = { conn.core.read [] with needsRecovery := true } := by
  have hDrained := @RowStream.drained_drainLoop net (conn.transport.inbox.length + 1) [] stream
    hOpen conn (Nat.lt_succ_self _)
  simp only [collect, RowStream.scope, bind_apply, RowStream.drain]
  revert hDrained
  generalize RowStream.drainLoop (conn.transport.inbox.length + 1) [] net (stream, conn) = result
  obtain ⟨outcome, stream', conn'⟩ := result
  cases stream.readReply conn.transport.inbox with
  | complete status rest =>
      intro hDrained
      obtain ⟨⟨rows, rfl⟩, hDone, hCore⟩ := hDrained
      exact ⟨⟨_, rfl⟩, by simp [RowStream.drop, hDone, hCore]⟩
  | failed status rest =>
      intro hDrained
      obtain ⟨⟨e, rfl⟩, hDone, hCore⟩ := hDrained
      exact ⟨⟨e, rfl⟩, by simp [RowStream.drop, hDone, hCore]⟩
  | broken rest =>
      intro hDrained
      obtain ⟨⟨e, rfl, hError⟩, hOpen', hCore⟩ := hDrained
      refine ⟨⟨e, rfl, hError⟩, ?_⟩
      rw [← hCore]
      simp [RowStream.drop, hOpen', core]
  | short =>
      intro hDrained
      obtain ⟨hOutcome, hOpen', hCore⟩ := hDrained
      obtain ⟨rfl, _⟩ | ⟨e, rfl, hError, hEnding⟩ := hOutcome
      · refine ⟨.inl rfl, ?_⟩
        rw [← hCore]
        simp [RowStream.drop, hOpen', core]
      · refine ⟨.inr ⟨e, rfl, hError, hEnding⟩, ?_⟩
        rw [← hCore]
        simp [RowStream.drop, hOpen', core]

theorem executed_query (net : Network) (sql : String) {conn : Connection}
    (hIdle : conn.state = .idle)
    (hFlag : conn.needsRecovery = false) : Executed net sql conn.core (query sql net conn) := by
  have hRecover : recover net conn = (.ok (), conn) := by
    rw [recover, bind_of_ok (get_apply ..), doIf_neg (by simp [hFlag])]
    rfl
  have hSend := send_cases net (.query sql) (conn.setState .streaming)
  rw [query, bind_apply, queryStream, bind_of_ok hRecover,
    bind_of_ok (transition_of_idle hIdle rfl), bind_apply, Executed]
  revert hSend
  rw [show (conn.setState .streaming).transport = conn.core.transport from rfl]
  cases net.sends conn.core.transport (.query sql) with
  | false =>
      intro hSend
      obtain ⟨e, t, hSend, hError, hLeft⟩ := hSend
      rw [hSend]
      exact ⟨⟨e, rfl, hError⟩, t, hLeft, rfl⟩
  | true =>
      intro hSend
      rw [if_pos rfl] at hSend
      rw [if_pos rfl, hSend]
      exact @collect_core net .newSimple rfl
        { conn.setState .streaming with transport := conn.transport.sent net (.query sql) }

theorem executed_execute (net : Network) (sql : String) {conn : Connection}
    (hIdle : conn.state = .idle)
    (hFlag : conn.needsRecovery = false) : Executed net sql conn.core (execute sql net conn) :=
  (executed_query net sql hIdle hFlag).map _

/-- What a statement leaves on the wire, however it ends. -/
theorem Executed.wire {sql : String} {core : Core} {result : Outcome PgError α × Connection}
    (h : Executed net sql core result) : ∃ t rest, core.transport.AfterSend net (.query sql) t ∧
      result.2.core.transport = { t with inbox := rest } := by
  unfold Executed at h
  cases hSends : net.sends core.transport (.query sql) with
  | false =>
      rw [hSends] at h
      obtain ⟨_, t, hAfter, hCore⟩ := h
      exact ⟨t, t.inbox, hAfter, by rw [hCore]⟩
  | true =>
      rw [hSends, if_pos rfl] at h
      revert h
      cases RowStream.newSimple.readReply (core.transport.sent net (.query sql)).inbox with
      | complete status rest | failed status rest | broken rest =>
          intro h
          exact ⟨_, rest, .flushed, by rw [h.2]; rfl⟩
      | short =>
          intro h
          exact ⟨_, [], .flushed, by rw [h.2]; rfl⟩

end Execute

end Connection

end PgClient
