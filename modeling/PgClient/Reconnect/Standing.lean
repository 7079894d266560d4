import PgClient.Pairing.Operations
import PgClient.Reconnect.Session
import PgClient.Replies.Statement

/-!
Statements one after another on a new connection, whatever its server does: where each of
them leaves the connection.
-/

namespace PgClient

open Async Connection

/-- Where a connection stands between statements: at the end of a reply, in the middle of
one that has to be skipped first, or with a request that never went out. -/
inductive Standing where
  | ready (status : TransactionStatus) (t : Transport)
  | owed (t : Transport)
  | stuck
deriving DecidableEq, Repr

namespace Standing

/-- A statement that is sent, and how far its reply can be read. -/
def sent (net : Network) (t : Transport) (sql : String) : Standing :=
  if net.sends t (.query sql) then
    match RowStream.newSimple.readReply (t.sent net (.query sql)).inbox with
    | .complete status rest | .failed status rest =>
        .ready (.ofReady status) { t.sent net (.query sql) with inbox := rest }
    | .broken rest => .owed { t.sent net (.query sql) with inbox := rest }
    | .short => .owed { t.sent net (.query sql) with inbox := [] }
  else .stuck

/-- The next statement; a reply that is owed is skipped first. -/
def next (net : Network) (sql : String) : Standing → Standing
  | .ready _ t => sent net t sql
  | .owed t =>
      match skipReply t.inbox with
      | .complete _ rest | .failed _ rest => sent net { t with inbox := rest } sql
      | .broken rest => .owed { t with inbox := rest }
      | .short => .owed { t with inbox := [] }
  | .stuck => .stuck

/-- A reply has been read to its end, and no transaction is open then. -/
def isClean : Standing → Bool
  | .ready .idle _ => true
  | _ => false

/-- The fields of a connection that stands so. -/
def Holds (core : Core) : Standing → Prop
  | .ready status t => core.state = .idle ∧ core.needsRecovery = false ∧
      core.transactionStatus = status ∧ core.transport = t
  | .owed t => core.state = .streaming ∧ core.needsRecovery ∧ core.transport = t
  | .stuck => core.state = .streaming ∧ core.needsRecovery = false

theorem isClean_iff {core : Core} {standing : Standing} (h : standing.Holds core) :
    standing.isClean ↔ core.state = .idle ∧ core.transactionStatus = .idle := by
  cases standing with
  | ready status t =>
      obtain ⟨hState, _, hStatus, _⟩ := h
      cases status <;> simp [isClean, hState, hStatus]
  | owed t => simp [isClean, h.1]
  | stuck => simp [isClean, h.1]

end Standing

namespace Connection

variable {net : Network} {sql : String} {conn : Connection}

theorem holds_sent (hIdle : conn.state = .idle) (hFlag : conn.needsRecovery = false) :
    (Standing.sent net conn.transport sql).Holds (execute sql net conn).2.core := by
  have hExecuted := executed_execute net sql hIdle hFlag
  unfold Executed at hExecuted
  unfold Standing.sent
  rw [show conn.core.transport = conn.transport from rfl] at hExecuted
  cases hSends : net.sends conn.transport (.query sql) with
  | false =>
      rw [hSends] at hExecuted
      obtain ⟨_, t, _, hCore⟩ := hExecuted
      rw [hCore]
      exact ⟨rfl, hFlag⟩
  | true =>
      simp only [hSends, if_true] at hExecuted ⊢
      cases hReading : RowStream.newSimple.readReply
        (conn.transport.sent net (.query sql)).inbox with
      | complete status rest =>
          rw [hReading] at hExecuted
          rw [hExecuted.2]
          exact ⟨rfl, hFlag, rfl, rfl⟩
      | failed status rest =>
          rw [hReading] at hExecuted
          rw [hExecuted.2]
          exact ⟨rfl, hFlag, rfl, rfl⟩
      | broken rest =>
          rw [hReading] at hExecuted
          rw [hExecuted.2]
          exact ⟨rfl, rfl, rfl⟩
      | short =>
          rw [hReading] at hExecuted
          rw [hExecuted.2]
          exact ⟨rfl, rfl, rfl⟩

/-- Skipping an owed reply, by how it can be read. -/
theorem recover_core (net : Network) (hFlag : conn.needsRecovery) :
    match skipReply conn.transport.inbox with
    | .complete _ _ => False
    | .failed status rest => ∃ conn', recover net conn = (.ok (), conn') ∧
        conn'.core = { conn.core.skipped status rest with needsRecovery := false }
    | .broken rest => ∃ e conn', recover net conn = (.err e, conn') ∧
        conn'.core = conn.core.read rest
    | .short => ∃ outcome conn', recover net conn = (outcome, conn') ∧ (∀ a, outcome ≠ .ok a) ∧
        conn'.core = conn.core.read [] := by
  have hSkip := drive_readUntilReady conn.transport.inbox conn
  simp only [recover, bind_apply, get_apply, andThen_ok, doIf_pos hFlag, readUntilReady,
    withLocal_apply]
  cases hDrive : Drive.drive (readStep readUntilReadyBody) ((), conn) conn.transport.inbox with
  | waiting s =>
      rw [hDrive] at hSkip
      obtain ⟨outcome, hLoop, hEnd⟩ := RowStream.messageLoop_short net hDrive
      rw [hSkip.1, hLoop]
      obtain ⟨rfl, _⟩ | ⟨e, rfl, _, _⟩ := hEnd
      · exact ⟨.pending, _, rfl, by simp, by rw [← hSkip.2]; rfl⟩
      · exact ⟨.err e, _, rfl, by simp, by rw [← hSkip.2]; rfl⟩
  | done result s rest =>
      rw [hDrive] at hSkip
      simp only [messageLoop, hDrive]
      cases result with
      | error e =>
          obtain ⟨hReading, hCore, _⟩ := hSkip
          rw [hReading]
          exact ⟨e, _, rfl, by rw [← hCore]; rfl⟩
      | ok value =>
          obtain ⟨status, hReading, hCore⟩ := hSkip
          rw [hReading]
          exact ⟨_, rfl, by rw [← hCore]; rfl⟩

/-- A recovery that is not needed does nothing. -/
theorem recover_unneeded (net : Network) (hFlag : conn.needsRecovery = false) :
    recover net conn = (.ok (), conn) := by
  rw [recover, bind_of_ok (get_apply ..), doIf_neg (by simp [hFlag])]
  rfl

/-- A statement after a recovery that was needed is the statement alone. -/
theorem execute_of_recover {conn' : Connection} (hRecover : recover net conn = (.ok (), conn'))
    (hFlag : conn'.needsRecovery = false) : execute sql net conn = execute sql net conn' := by
  have hSame : queryStream sql net conn = queryStream sql net conn' := by
    rw [queryStream, bind_of_ok hRecover, bind_of_ok (recover_unneeded net hFlag)]
  simp only [execute, query, bind_apply, hSame]

theorem execute_of_recover_fails {outcome : Outcome PgError Unit} {conn' : Connection}
    (hRecover : recover net conn = (outcome, conn')) (hFails : ∀ a, outcome ≠ .ok a) :
    (execute sql net conn).2 = conn' := by
  simp only [execute, query, queryStream, bind_apply, hRecover]
  cases outcome with
  | ok a => exact absurd rfl (hFails a)
  | err e => rfl
  | pending => rfl

/-- A statement on an idle connection that succeeds has been answered without an error. -/
theorem execute_ok {conn' : Connection} {result : ExecuteResult} (hIdle : conn.state = .idle)
    (hFlag : conn.needsRecovery = false)
    (hRun : execute sql net conn = (.ok result, conn')) :
    ∃ status rest,
      RowStream.newSimple.readReply (conn.transport.sent net (.query sql)).inbox =
        .complete status rest ∧
      conn'.core = (conn.core.sent net (.query sql)).ready status rest := by
  have hExecuted := executed_execute net sql hIdle hFlag
  rw [hRun] at hExecuted
  unfold Executed at hExecuted
  rw [show conn.core.transport = conn.transport from rfl] at hExecuted
  cases hSends : net.sends conn.transport (.query sql) with
  | false =>
      rw [hSends] at hExecuted
      obtain ⟨⟨e, hErr, _⟩, _⟩ := hExecuted
      cases hErr
  | true =>
      rw [hSends, if_pos rfl] at hExecuted
      revert hExecuted
      cases RowStream.newSimple.readReply (conn.transport.sent net (.query sql)).inbox with
      | complete status rest => exact fun hExecuted => ⟨status, rest, rfl, hExecuted.2⟩
      | failed status rest =>
          intro hExecuted
          obtain ⟨⟨e, hErr⟩, _⟩ := hExecuted
          cases hErr
      | broken rest =>
          intro hExecuted
          obtain ⟨⟨e, hErr, _⟩, _⟩ := hExecuted
          cases hErr
      | short =>
          intro hExecuted
          obtain ⟨hPending | ⟨e, hErr, _⟩, _⟩ := hExecuted
          · cases hPending
          · cases hErr

/-- Nothing is abandoned after a recovery that succeeds. -/
theorem recover_flag {value : Unit} {conn' : Connection}
    (hRecover : recover net conn = (.ok value, conn')) : conn'.needsRecovery = false := by
  cases hNeeds : conn.needsRecovery with
  | false =>
      rw [recover_unneeded net hNeeds] at hRecover
      cases hRecover
      exact hNeeds
  | true =>
      have hCore := recover_core net hNeeds
      revert hCore
      rw [hRecover]
      cases skipReply conn.transport.inbox with
      | complete status rest => exact False.elim
      | failed status rest =>
          intro hCore
          obtain ⟨conn₂, hSame, hCore⟩ := hCore
          cases hSame
          exact congrArg Core.needsRecovery hCore
      | broken rest =>
          intro hCore
          obtain ⟨e, conn₂, hSame, _⟩ := hCore
          cases hSame
      | short =>
          intro hCore
          obtain ⟨outcome, conn₂, hSame, hFails, _⟩ := hCore
          cases hSame
          exact absurd rfl (hFails _)

/-- A statement that succeeds starts on an idle connection, once an abandoned reply is
skipped. -/
theorem execute_recovered {result : ExecuteResult} {conn' : Connection}
    (hRun : execute sql net conn = (.ok result, conn')) :
    ∃ conn₁, recover net conn = (.ok (), conn₁) ∧ conn₁.state = .idle ∧
      conn₁.needsRecovery = false ∧ execute sql net conn₁ = (.ok result, conn') := by
  cases hRecover : recover net conn with
  | mk outcome conn₁ =>
      cases outcome with
      | err e => simp [execute, query, queryStream, hRecover] at hRun
      | pending => simp [execute, query, queryStream, hRecover] at hRun
      | ok value =>
          have hFlag := recover_flag hRecover
          rw [execute_of_recover hRecover hFlag] at hRun
          refine ⟨conn₁, rfl, ?_, hFlag, hRun⟩
          by_contra hState
          have hRefused : conn₁.state.permits .streaming = false := by
            rw [Bool.eq_false_iff]
            exact fun hPermits => hState (ConnectionState.idle_of_permits rfl hPermits)
          simp [execute, query, queryStream, recover_unneeded net hFlag, transition,
            hRefused] at hRun

theorem execute_stuck (h : Standing.stuck.Holds conn.core) : (execute sql net conn).2 = conn := by
  obtain ⟨hState, hFlag⟩ := h
  have hState : conn.state = .streaming := hState
  simp [execute, query, queryStream, recover_unneeded net hFlag, transition, hState,
    ConnectionState.permits]

variable (net sql) in
/-- What one more statement makes of where a connection stands. -/
theorem holds_next {standing : Standing} (h : standing.Holds conn.core) :
    (standing.next net sql).Holds (execute sql net conn).2.core := by
  cases standing with
  | ready status t =>
      obtain ⟨hIdle, hFlag, _, rfl⟩ := h
      exact holds_sent hIdle hFlag
  | owed t =>
      obtain ⟨hState, hFlag, rfl⟩ := h
      have hRecover := recover_core net hFlag
      rw [Standing.next, show conn.core.transport = conn.transport from rfl]
      revert hRecover
      cases skipReply conn.transport.inbox with
      | complete status rest => exact False.elim
      | failed status rest =>
          intro hRecover
          obtain ⟨conn', hRecover, hCore⟩ := hRecover
          have hFlag' : conn'.needsRecovery = false := congrArg Core.needsRecovery hCore
          have hTransport : conn'.transport = { conn.transport with inbox := rest } :=
            congrArg Core.transport hCore
          rw [execute_of_recover hRecover hFlag']
          show (Standing.sent net { conn.transport with inbox := rest } sql).Holds _
          rw [← hTransport]
          exact holds_sent (congrArg Core.state hCore) hFlag'
      | broken rest =>
          intro hRecover
          obtain ⟨e, conn', hRecover, hCore⟩ := hRecover
          rw [execute_of_recover_fails hRecover (by simp), hCore]
          exact ⟨hState, hFlag, rfl⟩
      | short =>
          intro hRecover
          obtain ⟨outcome, conn', hRecover, hFails, hCore⟩ := hRecover
          rw [execute_of_recover_fails hRecover hFails, hCore]
          exact ⟨hState, hFlag, rfl⟩
  | stuck =>
      rw [execute_stuck h]
      exact h

variable (net sql) in
/-- A statement reads and sends, and touches nothing else of the wire. -/
theorem execute_wire {standing : Standing} (h : standing.Holds conn.core) :
    ∃ unread t rest,
      ({ conn.transport with inbox := unread } : Transport).AfterSend net (.query sql) t ∧
      (execute sql net conn).2.transport = { t with inbox := rest } := by
  cases standing with
  | ready status t =>
      obtain ⟨hIdle, hFlag, _, rfl⟩ := h
      obtain ⟨t, rest, hWire⟩ := (executed_execute net sql hIdle hFlag).wire
      exact ⟨conn.transport.inbox, t, rest, hWire⟩
  | owed t =>
      obtain ⟨_, hFlag, rfl⟩ := h
      have hRecover := recover_core net hFlag
      revert hRecover
      cases skipReply conn.transport.inbox with
      | complete status rest => exact False.elim
      | failed status rest =>
          intro hRecover
          obtain ⟨conn', hRecover, hCore⟩ := hRecover
          have hFlag' : conn'.needsRecovery = false := congrArg Core.needsRecovery hCore
          have hTransport : conn'.transport = { conn.transport with inbox := rest } :=
            congrArg Core.transport hCore
          obtain ⟨t, rest', hAfter, hWire⟩ :=
            (executed_execute net sql (congrArg Core.state hCore) hFlag').wire
          rw [execute_of_recover hRecover hFlag']
          exact ⟨rest, t, rest', hTransport ▸ hAfter, hWire⟩
      | broken rest =>
          intro hRecover
          obtain ⟨e, conn', hRecover, hCore⟩ := hRecover
          rw [execute_of_recover_fails hRecover (by simp)]
          exact ⟨rest, _, rest, .nothing, congrArg Core.transport hCore⟩
      | short =>
          intro hRecover
          obtain ⟨outcome, conn', hRecover, hFails, hCore⟩ := hRecover
          rw [execute_of_recover_fails hRecover hFails]
          exact ⟨[], _, [], .nothing, congrArg Core.transport hCore⟩
  | stuck =>
      rw [execute_stuck h]
      exact ⟨conn.transport.inbox, _, conn.transport.inbox, .nothing, rfl⟩

/-- Since a certain history only messages of a kind have been sent, or wait to be. -/
def OnlySince (base : List FrontendMessage) (kind : FrontendMessage → Prop) (t : Transport) :
    Prop :=
  (∃ later, t.history = later ++ base ∧ ∀ message ∈ later, kind message) ∧
    ∀ frame ∈ t.writeBuf, kind frame.message

section OnlySince

variable {base : List FrontendMessage} {kind : FrontendMessage → Prop} {t : Transport}
  {message : FrontendMessage}

theorem OnlySince.push (h : OnlySince base kind t) (hKind : kind message) (bytes : Bytes) :
    OnlySince base kind (t.push { message, bytes }) := by
  refine ⟨h.1, ?_⟩
  intro frame hMem
  cases List.mem_append.mp hMem with
  | inl hOld => exact h.2 frame hOld
  | inr hNew =>
      rw [List.mem_singleton.mp hNew]
      exact hKind

theorem OnlySince.sent (h : OnlySince base kind t) (hKind : kind message) :
    OnlySince base kind (t.sent net message) := by
  obtain ⟨⟨later, hHistory, hLater⟩, hBuf⟩ := h
  refine ⟨⟨message :: ((t.writeBuf.map Frame.message).reverse ++ later), ?_, ?_⟩, ?_⟩
  · rw [Transport.sent, Transport.deliver_history, Transport.flushed_history, hHistory]
    simp
  · intro m hMem
    simp only [List.mem_cons, List.mem_append, List.mem_reverse, List.mem_map] at hMem
    obtain rfl | ⟨frame, hFrame, rfl⟩ | hMem := hMem
    · exact hKind
    · exact hBuf frame hFrame
    · exact hLater m hMem
  · simp [Transport.sent, Transport.flushed_writeBuf]

theorem OnlySince.afterSend (h : OnlySince base kind t) (hKind : kind message) {t' : Transport}
    (hAfter : t.AfterSend net message t') : OnlySince base kind t' := by
  cases hAfter with
  | nothing => exact h
  | buffered bytes => exact h.push hKind bytes
  | flushed => exact h.sent hKind

theorem OnlySince.execute {standing : Standing} (hStanding : standing.Holds conn.core)
    (h : OnlySince base kind conn.transport) (hKind : kind (.query sql)) :
    OnlySince base kind (execute sql net conn).2.transport := by
  obtain ⟨unread, t, rest, hAfter, hTransport⟩ := execute_wire net sql hStanding
  have hSent : OnlySince base kind t :=
    OnlySince.afterSend (t := { conn.transport with inbox := unread }) h hKind hAfter
  rw [hTransport]
  exact hSent

end OnlySince

end Connection

end PgClient
