import PgClient.Effects.Operations
import PgClient.Transaction.Commit

/-!
Runs of calls and transactions on one connection: what becomes of the transactions whose
guards have been dropped.
-/

namespace PgClient

open Async Connection

namespace Connection

variable {net : Network} {conn : Connection} {sql : String}

/-- A statement goes out: an abandoned reply can be skipped, the connection is idle then, and
the network takes the message. -/
def Delivers (net : Network) (conn : Connection) (sql : String) : Prop :=
  ∃ conn₁, recover net conn = (.ok (), conn₁) ∧ conn₁.state = .idle ∧
    net.sends conn₁.transport (.query sql)

theorem Delivers.history (h : Delivers net conn sql) :
    (execute sql net conn).2.transport.history = .query sql :: conn.arrival net := by
  obtain ⟨conn₁, hRecover, hIdle, hSends⟩ := h
  have hFlag := recover_flag hRecover
  have hArrival := arrival_recover net conn
  rw [hRecover] at hArrival
  have hExecuted := executed_execute net sql hIdle hFlag
  rw [execute_of_recover hRecover hFlag, ← hArrival]
  have hSent : ∀ core : Core, core.transport.history =
      (conn₁.transport.sent net (.query sql)).history →
      core.transport.history = .query sql :: conn₁.arrival net :=
    fun core h => h.trans (Transport.deliver_history ..)
  unfold Executed at hExecuted
  rw [show conn₁.core.transport = conn₁.transport from rfl, hSends, if_pos rfl] at hExecuted
  apply hSent (execute sql net conn₁).2.core
  revert hExecuted
  cases RowStream.newSimple.readReply (conn₁.transport.sent net (.query sql)).inbox with
  | complete | failed | broken | short =>
      intro hExecuted
      rw [hExecuted.2]
      rfl

/-- What has been delivered stays delivered, whatever a statement comes to. -/
theorem history_execute {outcome : Outcome PgError ExecuteResult} {conn' : Connection}
    (hRun : execute sql net conn = (outcome, conn')) (hReturned : outcome ≠ .pending) :
    conn.transport.history <:+ conn'.transport.history := by
  have hEnd := tamed_execute (closed_history net conn.transport.history) sql conn
    (List.suffix_refl _)
  rw [hRun] at hEnd
  cases outcome with
  | ok value => exact hEnd
  | err e => exact hEnd
  | pending => exact absurd rfl hReturned

end Connection

namespace Transaction

variable {net : Network} {conn conn' : Connection} {txn txn' : Transaction} {sql : String}

/-- An end of a transaction is its statement, as far as the connection goes. -/
theorem finish_run {outcome : Outcome PgError Unit}
    (h : finish sql net (txn, conn) = (outcome, (txn', conn'))) (hReturned : outcome ≠ .pending) :
    ∃ outcome', execute sql net conn = (outcome', conn') ∧ outcome' ≠ .pending := by
  rw [finish, bind_apply, onSnd_apply] at h
  cases hExecute : execute sql net conn with
  | mk outcome₁ conn₁ =>
      rw [hExecute] at h
      cases outcome₁ with
      | ok result =>
          cases h
          exact ⟨_, rfl, by simp⟩
      | err e =>
          cases h
          exact ⟨_, rfl, by simp⟩
      | pending =>
          cases h
          exact absurd rfl hReturned

theorem begin_run {outcome : Outcome PgError Transaction} (h : (do
      let _ ← execute sql
      return .new : Client Transaction) net conn = (outcome, conn'))
        (hReturned : outcome ≠ .pending) :
    ∃ outcome', execute sql net conn = (outcome', conn') ∧ outcome' ≠ .pending := by
  rw [bind_apply] at h
  cases hExecute : execute sql net conn with
  | mk outcome₁ conn₁ =>
      rw [hExecute] at h
      cases outcome₁ with
      | ok result =>
          cases h
          exact ⟨_, rfl, by simp⟩
      | err e =>
          cases h
          exact ⟨_, rfl, by simp⟩
      | pending =>
          cases h
          exact absurd rfl hReturned

theorem history_begin {begin : Client Transaction}
    (hBegin : begin = transaction ∨ ∃ options, begin = transactionWith options)
    {outcome : Outcome PgError Transaction} (h : begin net conn = (outcome, conn'))
    (hReturned : outcome ≠ .pending) :
    conn.transport.history <:+ conn'.transport.history := by
  obtain rfl | ⟨options, rfl⟩ := hBegin
  · obtain ⟨_, hRun, hReturned⟩ := begin_run h hReturned
    exact history_execute hRun hReturned
  · obtain ⟨_, hRun, hReturned⟩ := begin_run h hReturned
    exact history_execute hRun hReturned

theorem history_finish {outcome : Outcome PgError Unit}
    (h : finish sql net (txn, conn) = (outcome, (txn', conn'))) (hReturned : outcome ≠ .pending) :
    conn.transport.history <:+ conn'.transport.history := by
  obtain ⟨_, hRun, hReturned⟩ := finish_run h hReturned
  exact history_execute hRun hReturned

end Transaction

/-- The histories from the begin of a guard up to its drop. -/
structure Span where
  opened : List FrontendMessage
  closed : List FrontendMessage

/-- A block was open at some time in a span. -/
def Span.Holds {net : Network} (server : TransactionServer net) (span : Span) (id : BlockId) :
    Prop :=
  ∃ history, span.opened <:+ history ∧ history <:+ span.closed ∧
    (server.block history).id? = some id

/-- A session, where the guard on it was begun, and the guards that have been dropped without
a commit. -/
structure Guarded where
  session : Session
  since : Option (List FrontendMessage) := none
  dropped : List Span := []

/-- What can be done next. -/
inductive Use where
  | call
  | begin
  | within (conn₁ conn₂ : Connection) (failed : Bool)
  | commit
  | leave

/-- A closure that has been run in a transaction of its own, between the begin and the end. -/
structure Within {α : Type} (net : Network) (f : Owner Transaction α)
    (conn conn₁ conn₂ : Connection) (result : Except PgError α) : Prop where
  begun : ∃ txn txn', transaction net conn = (.ok txn, conn₁) ∧
    f.attempt net (txn, conn₁) = (.ok result, (txn', conn₂))
  run : Session.Reaches net ⟨.none, conn₁⟩ ⟨.none, conn₂⟩

namespace Within

variable {α : Type} {net : Network} {f : Owner Transaction α} {conn conn₁ conn₂ conn' : Connection}

/-- A closure that has succeeded is followed by `COMMIT`. -/
theorem commit_run {value : α} (h : Within net f conn conn₁ conn₂ (.ok value))
    {outcome : Outcome PgError α} (hRun : withTransaction f net conn = (outcome, conn'))
    (hReturned : outcome ≠ .pending) :
    ∃ outcome', execute "COMMIT" net conn₂ = (outcome', conn') ∧ outcome' ≠ .pending := by
  obtain ⟨txn, txn', hBegun, hRan⟩ := h.begun
  rw [withTransaction, bind_of_ok hBegun, underGuard, bind_of_ok hRan] at hRun
  simp only [bind_apply] at hRun
  cases hCommit : Transaction.commit net (txn', conn₂) with
  | mk outcome₁ s =>
      rw [hCommit] at hRun
      cases outcome₁ with
      | ok result =>
          cases hRun
          exact Transaction.finish_run hCommit (by simp)
      | err e =>
          cases hRun
          exact Transaction.finish_run hCommit (by simp)
      | pending =>
          cases hRun
          exact absurd rfl hReturned

/-- A closure that has failed is followed by `ROLLBACK`, whatever that comes to. -/
theorem rollback_run {e : PgError} (h : Within net f conn conn₁ conn₂ (.error e))
    {outcome : Outcome PgError α} (hRun : withTransaction f net conn = (outcome, conn'))
    (hReturned : outcome ≠ .pending) :
    ∃ outcome', execute "ROLLBACK" net conn₂ = (outcome', conn') ∧ outcome' ≠ .pending := by
  obtain ⟨txn, txn', hBegun, hRan⟩ := h.begun
  rw [withTransaction, bind_of_ok hBegun, underGuard, bind_of_ok hRan] at hRun
  simp only [bind_apply, attempt] at hRun
  cases hRollback : Transaction.rollback net (txn', conn₂) with
  | mk outcome₁ s =>
      rw [hRollback] at hRun
      cases outcome₁ with
      | ok result =>
          cases hRun
          exact Transaction.finish_run hRollback (by simp)
      | err e =>
          cases hRun
          exact Transaction.finish_run hRollback (by simp)
      | pending =>
          cases hRun
          exact absurd rfl hReturned

theorem history_begun {result : Except PgError α} (h : Within net f conn conn₁ conn₂ result) :
    conn.transport.history <:+ conn₁.transport.history ∧
      conn₁.transport.history <:+ conn₂.transport.history := by
  obtain ⟨txn, _, hBegun, _⟩ := h.begun
  exact ⟨Transaction.history_begin (.inl rfl) hBegun (by simp), history_reaches h.run⟩

theorem history_ended {result : Except PgError α} (h : Within net f conn conn₁ conn₂ result)
    {outcome : Outcome PgError α} (hRun : withTransaction f net conn = (outcome, conn'))
    (hReturned : outcome ≠ .pending) :
    conn₂.transport.history <:+ conn'.transport.history := by
  cases result with
  | ok value =>
      obtain ⟨_, hCommit, hReturned⟩ := h.commit_run hRun hReturned
      exact history_execute hCommit hReturned
  | error e =>
      obtain ⟨_, hRollback, hReturned⟩ := h.rollback_run hRun hReturned
      exact history_execute hRollback hReturned

end Within

namespace Guarded

abbrev history (g : Guarded) : List FrontendMessage := g.session.conn.transport.history

/-- A guard that is given up without having committed. -/
def giveUp (g : Guarded) (opened : List FrontendMessage) (conn : Connection) : Guarded :=
  { session := ⟨.none, conn⟩
    dropped := ⟨opened, conn.transport.history⟩ :: g.dropped }

/-- One step: a call, a begin, a closure, or the end of the guard. -/
inductive Step (net : Network) (g : Guarded) : Use → Guarded → Prop where
  | call {call : Call} {outcome : Outcome PgError Unit} {s' : Session}
      (hStep : g.session.step net call = some (outcome, s')) (hReturned : outcome ≠ .pending) :
      Step net g .call { g with session := s' }
  | begun {begin : Client Transaction}
      (hBegin : begin = transaction ∨ ∃ options, begin = transactionWith options)
      (hHandle : g.session.handle = .none) (hSince : g.since = none)
      {txn : Transaction} {conn : Connection} (hOk : begin net g.session.conn = (.ok txn, conn)) :
      Step net g .begin { g with
        session := ⟨.none, conn⟩
        since := some conn.transport.history }
  | notBegun {begin : Client Transaction}
      (hBegin : begin = transaction ∨ ∃ options, begin = transactionWith options)
      (hHandle : g.session.handle = .none) (hSince : g.since = none)
      {e : PgError} {conn : Connection} (hErr : begin net g.session.conn = (.err e, conn)) :
      Step net g .begin { g with session := ⟨.none, conn⟩ }
  | notOpened {α : Type} {f : Owner Transaction α} (hHandle : g.session.handle = .none)
      (hSince : g.since = none) {e : PgError} {conn : Connection}
      (hBegin : transaction net g.session.conn = (.err e, conn))
      (hErr : withTransaction f net g.session.conn = (.err e, conn)) :
      Step net g .begin { g with session := ⟨.none, conn⟩ }
  | committed {opened : List FrontendMessage} (hHandle : g.session.handle = .none)
      (hSince : g.since = some opened) {txn txn' : Transaction} {conn : Connection}
      (hOk : Transaction.commit net (txn, g.session.conn) = (.ok (), (txn', conn))) :
      Step net g .commit { session := ⟨.none, conn⟩, dropped := g.dropped }
  | notCommitted {opened : List FrontendMessage} (hHandle : g.session.handle = .none)
      (hSince : g.since = some opened) {txn txn' : Transaction} {e : PgError} {conn : Connection}
      (hErr : Transaction.commit net (txn, g.session.conn) = (.err e, (txn', conn))) :
      Step net g .commit (g.giveUp opened conn)
  | rolledBack {opened : List FrontendMessage} (hHandle : g.session.handle = .none)
      (hSince : g.since = some opened) {txn txn' : Transaction}
      {outcome : Outcome PgError Unit} {conn : Connection}
      (hRun : Transaction.rollback net (txn, g.session.conn) = (outcome, (txn', conn)))
      (hReturned : outcome ≠ .pending) : Step net g .leave (g.giveUp opened conn)
  | dropped {opened : List FrontendMessage} (hHandle : g.session.handle = .none)
      (hSince : g.since = some opened) (txn : Transaction) :
      Step net g .leave (g.giveUp opened (txn.drop g.session.conn))
  | within {α : Type} {f : Owner Transaction α} (hHandle : g.session.handle = .none)
      (hSince : g.since = none) {conn₁ conn₂ conn : Connection} {value : α}
      (hWithin : Within net f g.session.conn conn₁ conn₂ (.ok value))
      (hOk : withTransaction f net g.session.conn = (.ok value, conn)) :
      Step net g (.within conn₁ conn₂ false) { session := ⟨.none, conn⟩, dropped := g.dropped }
  | notWithin {α : Type} {f : Owner Transaction α} (hHandle : g.session.handle = .none)
      (hSince : g.since = none) {conn₁ conn₂ conn : Connection} {result : Except PgError α}
      {e : PgError} (hWithin : Within net f g.session.conn conn₁ conn₂ result)
      (hErr : withTransaction f net g.session.conn = (.err e, conn)) :
      Step net g (.within conn₁ conn₂ (!result.isOk)) (g.giveUp conn₁.transport.history conn)

/-- The runs all of whose steps are allowed. -/
inductive Reaches (net : Network) (allowed : Guarded → Use → Prop) (start : Guarded) :
    Guarded → Prop where
  | start : Reaches net allowed start start
  | step {g g' : Guarded} {use : Use} (hReach : Reaches net allowed start g)
      (hAllowed : allowed g use) (hStep : g.Step net use g') : Reaches net allowed start g'

variable {net : Network} (server : TransactionServer net)

/-- A transaction whose guard has been dropped is still open. -/
def Lingers (g : Guarded) : Prop :=
  ∃ span ∈ g.dropped, ∃ id, span.Holds server id ∧ (server.block g.history).id? = some id

/-- After a closure that has failed the transaction is over already, or `ROLLBACK` reaches
the server and is accepted. -/
def RollsBack (conn₁ conn₂ : Connection) : Prop :=
  (∀ id, (server.block conn₁.transport.history).id? = some id →
      (server.block conn₂.transport.history).id? ≠ some id) ∨
    conn₂.Delivers net "ROLLBACK" ∧ server.Accepts (conn₂.arrival net) (.query "ROLLBACK")

/-- A transaction begins only when those whose guards have been dropped are over, and a
closure fails only where `ROLLBACK` gets through. -/
def Careful (g : Guarded) : Use → Prop
  | .begin => ¬ g.Lingers server
  | .within conn₁ conn₂ failed =>
      ¬ g.Lingers server ∧ (failed → RollsBack server conn₁ conn₂)
  | _ => True

/-- A commit commits nothing that was done under a guard that had been dropped, and a closure
that fails leaves its transaction. -/
def Isolates (g : Guarded) (use : Use) (g' : Guarded) : Prop :=
  match use with
  | .commit => ∀ span ∈ g.dropped, ∀ id, span.Holds server id →
      server.committed g'.history id → server.committed g.history id
  | .within conn₁ _ failed =>
      (∀ span ∈ g.dropped, ∀ id, span.Holds server id →
        server.committed g'.history id → server.committed g.history id) ∧
      (failed → ∀ id, (server.block conn₁.transport.history).id? = some id →
        (server.block g'.history).id? ≠ some id)
  | _ => True

variable {server} {g g' : Guarded} {use : Use}

theorem history_step (hStep : g.Step net use g') : g.history <:+ g'.history := by
  cases hStep with
  | call hStep hReturned => exact Connection.history_step hStep hReturned
  | begun hBegin _ _ hOk => exact Transaction.history_begin hBegin hOk (by simp)
  | notBegun hBegin _ _ hErr => exact Transaction.history_begin hBegin hErr (by simp)
  | notOpened _ _ hBegin => exact Transaction.history_begin (.inl rfl) hBegin (by simp)
  | committed _ _ hOk => exact Transaction.history_finish hOk (by simp)
  | notCommitted _ _ hErr => exact Transaction.history_finish hErr (by simp)
  | rolledBack _ _ hRun hReturned => exact Transaction.history_finish hRun hReturned
  | dropped => exact List.suffix_refl _
  | within _ _ hWithin hOk =>
      exact (hWithin.history_begun.1.trans hWithin.history_begun.2).trans
        (hWithin.history_ended hOk (by simp))
  | notWithin _ _ hWithin hErr =>
      exact (hWithin.history_begun.1.trans hWithin.history_begun.2).trans
        (hWithin.history_ended hErr (by simp))

/-- What holds between the steps of a careful run. -/
structure Kept (server : TransactionServer net) (g : Guarded) : Prop where
  closed : ∀ span ∈ g.dropped, span.closed <:+ g.history
  ended : g.since ≠ none → ¬ g.Lingers server

/-- A transaction that does not linger is never open or newly committed again. -/
theorem over_later {history : List FrontendMessage}
    (hClosed : ∀ span ∈ g.dropped, span.closed <:+ g.history) (hOver : ¬ g.Lingers server)
    (hLater : g.history <:+ history) {span : Span} (hSpan : span ∈ g.dropped) {id : BlockId}
    (hHolds : span.Holds server id) :
    (server.block history).id? ≠ some id ∧
      (server.committed history id → server.committed g.history id) := by
  obtain ⟨earlier, hEarlier, hBefore, hOpen⟩ := hHolds
  have hId : id.message < g.history.length :=
    (server.id_lt hOpen).trans_le (hBefore.trans (hClosed span hSpan)).length_le
  obtain ⟨later, rfl⟩ := hLater
  apply server.ended hId
  intro hStill
  exact hOver ⟨span, hSpan, id, ⟨earlier, hEarlier, hBefore, hOpen⟩, hStill⟩

theorem Kept.step (h : g.Kept server) (hCareful : g.Careful server use)
    (hStep : g.Step net use g') : g'.Kept server := by
  have hGrows := history_step hStep
  have hClosed : ∀ span ∈ g.dropped, span.closed <:+ g'.history :=
    fun span hSpan => (h.closed span hSpan).trans hGrows
  have hLater : ¬ g.Lingers server → g'.dropped = g.dropped → ¬ g'.Lingers server := by
    intro hOver hSame hLingers
    obtain ⟨span, hSpan, id, hHolds, hOpen⟩ := hLingers
    rw [hSame] at hSpan
    exact (over_later h.closed hOver hGrows hSpan hHolds).1 hOpen
  have hGivenUp : ∀ opened conn, g' = g.giveUp opened conn → g'.Kept server := by
    intro opened conn hSame
    subst hSame
    refine ⟨?_, fun hSince => absurd rfl hSince⟩
    intro span hSpan
    cases List.mem_cons.mp hSpan with
    | inl hNew => exact hNew ▸ List.suffix_refl _
    | inr hOld => exact hClosed span hOld
  cases hStep with
  | call => exact ⟨hClosed, fun hSince => hLater (h.ended hSince) rfl⟩
  | begun => exact ⟨hClosed, fun _ => hLater hCareful rfl⟩
  | notBegun _ _ hSince => exact ⟨hClosed, fun hSome => absurd hSince hSome⟩
  | notOpened _ hSince => exact ⟨hClosed, fun hSome => absurd hSince hSome⟩
  | committed | within => exact ⟨hClosed, fun hSince => absurd rfl hSince⟩
  | notCommitted | rolledBack | dropped | notWithin => exact hGivenUp _ _ rfl

theorem kept_of_reaches {conn : Connection}
    (hReach : Reaches net (Careful server) ⟨⟨.none, conn⟩, none, []⟩ g) : g.Kept server := by
  induction hReach with
  | start => exact ⟨fun _ hMem => (nomatch hMem), fun hSince => absurd rfl hSince⟩
  | step _ hCareful hStep ih => exact ih.step hCareful hStep

/-- A closure that has failed has left its transaction where `ROLLBACK` gets through. -/
theorem left_of_rollsBack {α : Type} {f : Owner Transaction α} {conn conn₁ conn₂ conn' : Connection}
    {e : PgError} (hWithin : Within net f conn conn₁ conn₂ (.error e))
    {outcome : Outcome PgError α} (hRun : withTransaction f net conn = (outcome, conn'))
    (hReturned : outcome ≠ .pending) (h : RollsBack server conn₁ conn₂) {id : BlockId}
    (hOpen : (server.block conn₁.transport.history).id? = some id) :
    (server.block conn'.transport.history).id? ≠ some id := by
  cases h with
  | inl hOver =>
      obtain ⟨later, hLater⟩ := hWithin.history_ended hRun hReturned
      have hId := (server.id_lt hOpen).trans_le hWithin.history_begun.2.length_le
      rw [← hLater]
      exact (server.ended hId (hOver id hOpen)).1
  | inr hRollback =>
      obtain ⟨hDelivers, hAccepts⟩ := hRollback
      obtain ⟨_, hRollback, _⟩ := hWithin.rollback_run hRun hReturned
      have hHistory := hDelivers.history
      rw [hRollback] at hHistory
      rw [hHistory, (server.rollback _ hAccepts).1]
      exact fun hNone => nomatch hNone

/-- In every run in which transactions begin only when those of dropped guards are over, and
in which `ROLLBACK` gets through when a closure fails, no commit makes anything durable that
was done under a dropped guard, and a closure that fails leaves its transaction. -/
theorem isolates_of_reaches (server : TransactionServer net) {conn : Connection}
    (hReach : Reaches net (Careful server) ⟨⟨.none, conn⟩, none, []⟩ g)
    (hCareful : g.Careful server use) (hStep : g.Step net use g') : g.Isolates server use g' := by
  have hKept := kept_of_reaches hReach
  have hGrows := history_step hStep
  have hOver : ¬ g.Lingers server → ∀ span ∈ g.dropped, ∀ id, span.Holds server id →
      server.committed g'.history id → server.committed g.history id :=
    fun hOver span hSpan id hHolds => (over_later hKept.closed hOver hGrows hSpan hHolds).2
  cases hStep with
  | call | begun | notBegun | notOpened | rolledBack | dropped => trivial
  | committed _ hSince => exact hOver (hKept.ended (by simp [hSince]))
  | notCommitted _ hSince => exact hOver (hKept.ended (by simp [hSince]))
  | within => exact ⟨hOver hCareful.1, fun hFailed => nomatch hFailed⟩
  | @notWithin α f _ _ conn₁ conn₂ conn result e hWithin hErr =>
      refine ⟨hOver hCareful.1, fun hFailed id hOpen => ?_⟩
      cases result with
      | ok value => cases hFailed
      | error e =>
          exact left_of_rollsBack hWithin hErr (by simp) (hCareful.2 rfl) hOpen

section Ledger

/-- A transaction with a statement, dropped with its guard. -/
def afterDrop : Guarded where
  session := ⟨.none, afterStatement "INSERT"⟩
  dropped := [⟨afterBegin.transport.history, (afterStatement "INSERT").transport.history⟩]

theorem reaches_afterDrop {allowed : Guarded → Use → Prop}
    (hBegin : allowed ⟨⟨.none, .new⟩, none, []⟩ .begin)
    (hAllowed : ∀ g, allowed g .call ∧ allowed g .leave) :
    Reaches Ledger.network allowed ⟨⟨.none, .new⟩, none, []⟩ afterDrop := by
  have hInsert : Session.step Ledger.network ⟨.none, afterBegin⟩
      (.operation (.execute "INSERT")) = some (.ok (), ⟨.none, afterStatement "INSERT"⟩) := rfl
  exact .step (.step (.step .start hBegin (.begun (.inl rfl) rfl rfl rfl))
    (hAllowed _).1 (.call hInsert (by simp))) (hAllowed _).2 (.dropped rfl rfl .new)

/-- The next transaction, after what has been done in between. -/
def again (conn : Connection) : Guarded :=
  { afterDrop with
    session := ⟨.none, (transaction Ledger.network conn).2⟩
    since := some (transaction Ledger.network conn).2.transport.history }

def againCommitted (conn : Connection) : Guarded :=
  { session := ⟨.none, (execute "COMMIT" Ledger.network (again conn).session.conn).2⟩
    dropped := afterDrop.dropped }

def rolledBack : Connection := (execute "ROLLBACK" Ledger.network (afterStatement "INSERT")).2

/-- A dropped guard after which `ROLLBACK` is executed by hand. -/
theorem isolates_rolledBack :
    (again rolledBack).Isolates Ledger.server .commit (againCommitted rolledBack) := by
  have hRollback : afterDrop.session.step Ledger.network (.operation (.execute "ROLLBACK")) =
      some (.ok (), ⟨.none, rolledBack⟩) := rfl
  have hOver : Careful Ledger.server { afterDrop with session := ⟨.none, rolledBack⟩ } .begin := by
    intro hLingers
    obtain ⟨_, _, _, _, hOpen⟩ := hLingers
    cases hOpen
  have hStart : Careful Ledger.server ⟨⟨.none, .new⟩, none, []⟩ .begin := by
    intro hLingers
    obtain ⟨_, hSpan, _⟩ := hLingers
    cases hSpan
  have hCall : Careful Ledger.server afterDrop .call := trivial
  exact isolates_of_reaches Ledger.server
    (.step (.step (reaches_afterDrop hStart fun _ => ⟨trivial, trivial⟩) hCall
      (.call hRollback (by simp))) hOver (.begun (.inl rfl) rfl rfl rfl))
    trivial (@Step.committed _ (again rolledBack) _ rfl rfl .new { committed := true } _ rfl)

/-- `BEGIN` continues the transaction of the dropped guard, and the commit takes its
statements along. -/
theorem not_isolates_again :
    ¬ ∀ (net : Network) (server : TransactionServer net) (conn : Connection) (g g' : Guarded)
      (use : Use), Reaches net (fun _ _ => True) ⟨⟨.none, conn⟩, none, []⟩ g →
      g.Step net use g' → g.Isolates server use g' := by
  intro hAll
  have hIsolates := hAll Ledger.network Ledger.server .new (again (afterStatement "INSERT"))
    (againCommitted (afterStatement "INSERT")) .commit
    (.step (reaches_afterDrop trivial fun _ => ⟨trivial, trivial⟩) trivial
      (.begun (.inl rfl) rfl rfl rfl))
    (@Step.committed _ (again (afterStatement "INSERT")) _ rfl rfl .new { committed := true } _ rfl)
  have hBefore : ⟨0, 0⟩ ∈ Ledger.committed (again (afterStatement "INSERT")).history :=
    hIsolates _ List.mem_cons_self ⟨0, 0⟩ ⟨_, List.suffix_refl _, ⟨[.query "INSERT"], rfl⟩, rfl⟩
      (show ⟨0, 0⟩ ∈ Ledger.committed _ by decide)
  revert hBefore
  decide

end Ledger

end Guarded
end PgClient
