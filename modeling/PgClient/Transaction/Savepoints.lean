import PgClient.Transaction.Commit
import PgClient.Transaction.SavepointServer

/-!
A transaction with savepoints, from its begin to its end: what the guards know of it against
the work that the server keeps. A savepoint borrows the guard of its transaction, so that there
is one at a time and nothing else happens to the transaction meanwhile.
-/

namespace PgClient

open Async Connection

/-- What a transaction has come to. `guard` is the savepoint that is open, with the work that
was there when it was set; `work` has the statements that returned `Ok` and that no savepoint
has undone, newest first. -/
structure Scope where
  conn : Connection
  txn : Transaction
  guard : Option (Savepoint × List String) := none
  work : List String := []

/-- A call that the server has answered to the end, and the work that there is after it. -/
inductive Came {α : Type} (old new : List String) : Outcome PgError α → List String → Prop where
  | ok (value : α) : Came old new (.ok value) new
  | refused (e : PgServerError) : Came old new (.err (.server e)) old

/-- Everything that can be done with the guards between the begin and the end. -/
inductive Scope.Reached {net : Network} (server : SavepointServer net) (conn₀ : Connection) :
    Scope → Prop where
  | begin (options : TransactionOptions) {txn : Transaction} {conn : Connection}
      (hGood : Good server.toServer conn₀) (hBlock : server.block (conn₀.arrival net) = .none)
      (hRun : transactionWith options net conn₀ = (.ok txn, conn)) :
      Reached server conn₀ { conn, txn }
  | statement {s : Scope} {sql : String} {outcome : Outcome PgError ExecuteResult}
      {work : List String} {conn : Connection} (hBefore : Reached server conn₀ s)
      (hWork : isWork sql) (hRun : execute sql net s.conn = (outcome, conn))
      (hCame : Came s.work (sql :: s.work) outcome work) :
      Reached server conn₀ { s with conn, work }
  | savepoint {s : Scope} {name : String} {savepoint : Savepoint} {txn : Transaction}
      {conn : Connection} (hBefore : Reached server conn₀ s) (hFree : s.guard = none)
      (hName : name ≠ "")
      (hRun : Transaction.savepoint name net (s.txn, s.conn) = (.ok savepoint, (txn, conn))) :
      Reached server conn₀ { s with conn, txn, guard := some (savepoint, s.work) }
  | noSavepoint {s : Scope} {name : String} {e : PgServerError} {txn : Transaction}
      {conn : Connection} (hBefore : Reached server conn₀ s) (hFree : s.guard = none)
      (hName : name ≠ "")
      (hRun : Transaction.savepoint name net (s.txn, s.conn) = (.err (.server e), (txn, conn))) :
      Reached server conn₀ { s with conn, txn }
  | release {s : Scope} {savepoint savepoint' : Savepoint} {saved work : List String}
      {outcome : Outcome PgError Unit} {txn : Transaction} {conn : Connection}
      (hBefore : Reached server conn₀ s) (hGuard : s.guard = some (savepoint, saved))
      (hRun : Savepoint.release net ((savepoint, s.txn), s.conn) =
        (outcome, ((savepoint', txn), conn)))
      (hCame : Came s.work s.work outcome work) :
      Reached server conn₀ { conn, txn := savepoint'.drop txn, work }
  | rollback {s : Scope} {savepoint savepoint' : Savepoint} {saved work : List String}
      {outcome : Outcome PgError Unit} {txn : Transaction} {conn : Connection}
      (hBefore : Reached server conn₀ s) (hGuard : s.guard = some (savepoint, saved))
      (hRun : Savepoint.rollback net ((savepoint, s.txn), s.conn) =
        (outcome, ((savepoint', txn), conn)))
      (hCame : Came s.work saved outcome work) :
      Reached server conn₀ { conn, txn := savepoint'.drop txn, work }
  | drop {s : Scope} {savepoint : Savepoint} {saved : List String}
      (hBefore : Reached server conn₀ s) (hGuard : s.guard = some (savepoint, saved)) :
      Reached server conn₀ { s with txn := savepoint.drop s.txn, guard := none }

section Calls

variable {net : Network} {conn conn' : Connection} {txn txn' : Transaction}

theorem Transaction.savepoint_ok {name : String} {savepoint : Savepoint}
    (h : Transaction.savepoint name net (txn, conn) = (.ok savepoint, (txn', conn'))) :
    (∃ result, execute ("SAVEPOINT " ++ quoteIdentifier name) net conn = (.ok result, conn')) ∧
      savepoint = { name } ∧ txn' = { txn with savepointDepth := txn.savepointDepth + 1 } := by
  rw [Transaction.savepoint, bind_apply, onSnd_apply] at h
  cases hExecute : execute ("SAVEPOINT " ++ quoteIdentifier name) net conn with
  | mk outcome conn₁ =>
      rw [hExecute] at h
      cases outcome <;> cases h
      exact ⟨⟨_, rfl⟩, rfl, rfl⟩

theorem Transaction.savepoint_err {name : String} {e : PgError}
    (h : Transaction.savepoint name net (txn, conn) = (.err e, (txn', conn'))) :
    execute ("SAVEPOINT " ++ quoteIdentifier name) net conn = (.err e, conn') ∧ txn' = txn := by
  rw [Transaction.savepoint, bind_apply, onSnd_apply] at h
  cases hExecute : execute ("SAVEPOINT " ++ quoteIdentifier name) net conn with
  | mk outcome conn₁ =>
      rw [hExecute] at h
      cases outcome <;> cases h
      exact ⟨rfl, rfl⟩

namespace Savepoint

variable {sql : String} {savepoint savepoint' : Savepoint}

theorem finish_ok {value : Unit} (h : Savepoint.finish sql net ((savepoint, txn), conn) =
      (.ok value, ((savepoint', txn'), conn'))) :
    (∃ result, execute (sql ++ quoteIdentifier savepoint.name) net conn = (.ok result, conn')) ∧
      savepoint'.drop txn' = { txn with savepointDepth := txn.savepointDepth - 1 } := by
  rw [Savepoint.finish, bind_of_ok (get_apply ..)] at h
  simp only [bind_apply, onSnd_apply] at h
  cases hExecute : execute (sql ++ quoteIdentifier savepoint.name) net conn with
  | mk outcome conn₁ =>
      rw [hExecute] at h
      cases outcome <;> cases h
      exact ⟨⟨_, rfl⟩, rfl⟩

theorem finish_err {e : PgError} (h : Savepoint.finish sql net ((savepoint, txn), conn) =
      (.err e, ((savepoint', txn'), conn'))) :
    execute (sql ++ quoteIdentifier savepoint.name) net conn = (.err e, conn') ∧
      savepoint' = savepoint ∧ txn' = txn := by
  rw [Savepoint.finish, bind_of_ok (get_apply ..)] at h
  simp only [bind_apply, onSnd_apply] at h
  cases hExecute : execute (sql ++ quoteIdentifier savepoint.name) net conn with
  | mk outcome conn₁ =>
      rw [hExecute] at h
      cases outcome <;> cases h
      exact ⟨rfl, rfl, rfl⟩

theorem drop_unreleased (h : savepoint.released = false) (txn : Transaction) :
    savepoint.drop txn = { txn with savepointDepth := txn.savepointDepth - 1 } := by
  rw [drop, h]
  rfl

end Savepoint

end Calls

namespace Scope

/-- How the server stands to the guards. `base` is what had been committed before. -/
structure Kept {net : Network} (server : SavepointServer net) (base : List String) (s : Scope) :
    Prop where
  good : Good server.toServer s.conn
  idle : s.conn.state = .idle
  recovered : s.conn.needsRecovery = false
  status : s.conn.transactionStatus = (server.block (s.conn.arrival net)).status
  inside : ∃ id, (server.block (s.conn.arrival net)).id? = some id
  entries : (server.journal (s.conn.arrival net)).entries = s.work
  durable : server.durable (s.conn.arrival net) = base
  marked : ∀ savepoint saved, s.guard = some (savepoint, saved) →
    savepoint.name ≠ "" ∧ savepoint.released = false ∧
      (server.journal (s.conn.arrival net)).Marked (SqlLexer.clip 63 savepoint.name.toList) saved
  depth : s.txn.savepointDepth = if s.guard.isSome then 1 else 0

variable {net : Network} {server : SavepointServer net} {base : List String} {s : Scope}

theorem Kept.acknowledged (h : Kept server base s) {sql : String} {result : ExecuteResult}
    {conn' : Connection} (hRun : execute sql net s.conn = (.ok result, conn')) :
    Acknowledged server.toTransactionServer sql s.conn conn' :=
  acknowledged_of_idle h.good h.idle h.recovered hRun

theorem Kept.rejected (h : Kept server base s) {sql : String} {e : PgServerError}
    {conn' : Connection} (hRun : execute sql net s.conn = (.err (.server e), conn')) :
    Rejected server.toTransactionServer sql s.conn conn' :=
  rejected_of_idle h.good h.idle h.recovered hRun

/-- What is left to show of a scope after a statement. -/
theorem Kept.next {sql : String} {s' : Scope}
    (hResponded : Responded server.toTransactionServer sql s.conn s'.conn)
    (hInside : ∃ id, (server.block (.query sql :: s.conn.arrival net)).id? = some id)
    (hEntries : (server.journal (.query sql :: s.conn.arrival net)).entries = s'.work)
    (hDurable : server.durable (.query sql :: s.conn.arrival net) = base)
    (hMarked : ∀ savepoint saved, s'.guard = some (savepoint, saved) →
      savepoint.name ≠ "" ∧ savepoint.released = false ∧
        (server.journal (.query sql :: s.conn.arrival net)).Marked
          (SqlLexer.clip 63 savepoint.name.toList) saved)
    (hDepth : s'.txn.savepointDepth = if s'.guard.isSome then 1 else 0) : Kept server base s' := by
  rw [← hResponded.arrival] at hInside hEntries hDurable hMarked
  refine ⟨hResponded.good, hResponded.idle, hResponded.recovered, ?_, hInside, hEntries, hDurable,
    hMarked, hDepth⟩
  rw [hResponded.arrival]
  exact hResponded.status

/-- A statement that is answered with an error leaves the work alone. -/
theorem Kept.failed (h : Kept server base s) {sql : String} {e : PgServerError}
    {conn' : Connection} (hKind : isWork sql ∨ (SavepointCommand.ofSql sql).isSome)
    (hRun : execute sql net s.conn = (.err (.server e), conn')) :
    Kept server base { s with conn := conn' } := by
  have hRejected := h.rejected hRun
  obtain ⟨id, hId⟩ := h.inside
  obtain ⟨hBlock, hJournal, hDurable⟩ :=
    server.fails _ _ _ hKind hId hRejected.alive hRejected.ready hRejected.error
  refine .next (s := s) hRejected.toResponded ⟨id, by rw [hBlock]; rfl⟩ ?_ ?_ ?_ h.depth
  · rw [hJournal]
    exact h.entries
  · rw [hDurable]
    exact h.durable
  · rw [hJournal]
    exact h.marked

/-- Nothing but the savepoint that is open goes with its guard. -/
theorem Kept.unguarded (h : Kept server base s) {savepoint : Savepoint} {saved : List String}
    (hGuard : s.guard = some (savepoint, saved)) :
    Kept server base { s with txn := savepoint.drop s.txn, guard := none } := by
  obtain ⟨_, hReleased, _⟩ := h.marked savepoint saved hGuard
  refine ⟨h.good, h.idle, h.recovered, h.status, h.inside, h.entries, h.durable, ?_, ?_⟩
  · intro _ _ hNone
    cases hNone
  · rw [Savepoint.drop_unreleased hReleased]
    show s.txn.savepointDepth - 1 = 0
    rw [h.depth, hGuard]
    simp

theorem Kept.statement (h : Kept server base s) {sql : String} (hWork : isWork sql)
    {result : ExecuteResult} {conn' : Connection}
    (hRun : execute sql net s.conn = (.ok result, conn')) :
    Kept server base { s with conn := conn', work := sql :: s.work } := by
  have hAcknowledged := h.acknowledged hRun
  obtain ⟨id, hId⟩ := h.inside
  obtain ⟨hBlock, hJournal, hDurable⟩ := server.works _ _ _ hWork hId hAcknowledged.accepts
  refine .next (s := s) hAcknowledged.toResponded ⟨id, by rw [hBlock]; rfl⟩ ?_ ?_ ?_ h.depth
  · rw [hJournal]
    exact congrArg (List.cons sql) h.entries
  · rw [hDurable]
    exact h.durable
  · intro savepoint saved hGuard
    obtain ⟨hName, hReleased, hMarked⟩ := h.marked savepoint saved hGuard
    rw [hJournal]
    exact ⟨hName, hReleased, hMarked.write sql⟩

theorem Kept.savepoint (h : Kept server base s) (hFree : s.guard = none) {name : String}
    (hName : name ≠ "") {savepoint : Savepoint} {txn : Transaction} {conn : Connection}
    (hRun : Transaction.savepoint name net (s.txn, s.conn) = (.ok savepoint, (txn, conn))) :
    Kept server base { s with conn, txn, guard := some (savepoint, s.work) } := by
  obtain ⟨⟨result, hExecute⟩, rfl, rfl⟩ := Transaction.savepoint_ok hRun
  have hAcknowledged := h.acknowledged hExecute
  obtain ⟨id, hId⟩ := h.inside
  obtain ⟨hBlock, hJournal, hDurable⟩ := server.marks _ _ _ _
    (SavepointCommand.ofSql_savepoint hName) hId hAcknowledged.accepts
  refine .next (s := s) hAcknowledged.toResponded ⟨id, by rw [hBlock]; rfl⟩ ?_ ?_ ?_ ?_
  · rw [hJournal]
    exact h.entries
  · rw [hDurable]
    exact h.durable
  · intro savepoint saved hGuard
    cases hGuard
    rw [hJournal]
    refine ⟨hName, rfl, ?_⟩
    rw [← h.entries]
    exact Journal.marked_mark ..
  · show s.txn.savepointDepth + 1 = 1
    rw [h.depth, hFree]
    rfl

/-- Both ends of a savepoint that return `Ok`. -/
theorem Kept.finish (h : Kept server base s) {savepoint : Savepoint} {saved work : List String}
    (hGuard : s.guard = some (savepoint, saved)) {sql : String} {command : SavepointCommand}
    (hCommand : SavepointCommand.ofSql (sql ++ quoteIdentifier savepoint.name) = some command)
    {value : Unit} {savepoint' : Savepoint} {txn : Transaction} {conn : Connection}
    (hRun : Savepoint.finish sql net ((savepoint, s.txn), s.conn) =
      (.ok value, ((savepoint', txn), conn)))
    (hEntries : (command.apply (server.journal (s.conn.arrival net))).entries = work) :
    Kept server base { conn, txn := savepoint'.drop txn, work } ∧
      (server.block (conn.arrival net)).status = .inTransaction := by
  obtain ⟨⟨result, hExecute⟩, hTxn⟩ := Savepoint.finish_ok hRun
  have hAcknowledged := h.acknowledged hExecute
  obtain ⟨id, hId⟩ := h.inside
  obtain ⟨hBlock, hJournal, hDurable⟩ :=
    server.marks _ _ _ _ hCommand hId hAcknowledged.accepts
  refine ⟨.next (s := s) hAcknowledged.toResponded ⟨id, by rw [hBlock]; rfl⟩ ?_ ?_ ?_ ?_, ?_⟩
  · rw [hJournal]
    exact hEntries
  · rw [hDurable]
    exact h.durable
  · intro _ _ hNone
    cases hNone
  · show (savepoint'.drop txn).savepointDepth = 0
    rw [hTxn]
    show s.txn.savepointDepth - 1 = 0
    rw [h.depth, hGuard]
    simp
  · rw [hAcknowledged.arrival, hBlock]
    rfl

theorem Kept.unfinished (h : Kept server base s) {savepoint : Savepoint} {saved : List String}
    (hGuard : s.guard = some (savepoint, saved)) {sql : String}
    (hCommand : (SavepointCommand.ofSql (sql ++ quoteIdentifier savepoint.name)).isSome)
    {e : PgServerError} {savepoint' : Savepoint} {txn : Transaction} {conn : Connection}
    (hRun : Savepoint.finish sql net ((savepoint, s.txn), s.conn) =
      (.err (.server e), ((savepoint', txn), conn))) :
    Kept server base { conn, txn := savepoint'.drop txn, work := s.work } := by
  obtain ⟨hExecute, rfl, rfl⟩ := Savepoint.finish_err hRun
  exact Kept.unguarded (h.failed (.inr hCommand) hExecute) hGuard

variable {conn₀ : Connection}

theorem kept_begin (options : TransactionOptions) {txn : Transaction} {conn : Connection}
    (hGood : Good server.toServer conn₀) (hBlock : server.block (conn₀.arrival net) = .none)
    (hRun : transactionWith options net conn₀ = (.ok txn, conn)) :
    Kept server (server.durable (conn₀.arrival net)) { conn, txn } := by
  obtain ⟨result, hExecute⟩ := Transaction.begin_ok hRun
  have hAcknowledged := acknowledged_of_execute hGood hExecute
  obtain ⟨⟨id, hActive⟩, _, _⟩ := server.begins _ options hAcknowledged.accepts
  obtain ⟨hJournal, hDurable⟩ := server.opens _ options hBlock hAcknowledged.accepts
  have hTxn : txn = .new := by
    rw [transactionWith, bind_of_ok hExecute] at hRun
    cases hRun
    rfl
  refine .next (s := { conn := conn₀, txn }) hAcknowledged.toResponded ⟨id, by rw [hActive]; rfl⟩
    ?_ hDurable ?_ ?_
  · rw [hJournal]
  · intro _ _ hNone
    cases hNone
  · rw [hTxn]
    rfl

/-- What holds at every point of a transaction. -/
theorem Reached.kept (h : s.Reached server conn₀) :
    Kept server (server.durable (conn₀.arrival net)) s := by
  induction h with
  | begin options hGood hBlock hRun => exact kept_begin options hGood hBlock hRun
  | statement _ hWork hRun hCame ih =>
      cases hCame with
      | ok result => exact ih.statement hWork hRun
      | refused e => exact ih.failed (.inl hWork) hRun
  | savepoint _ hFree hName hRun ih => exact ih.savepoint hFree hName hRun
  | noSavepoint _ _ hName hRun ih =>
      obtain ⟨hExecute, rfl⟩ := Transaction.savepoint_err hRun
      exact ih.failed (.inr (by rw [SavepointCommand.ofSql_savepoint hName]; rfl)) hExecute
  | release _ hGuard hRun hCame ih =>
      obtain ⟨hName, _, _⟩ := ih.marked _ _ hGuard
      have hCommand := SavepointCommand.ofSql_release hName
      cases hCame with
      | ok value => exact (ih.finish hGuard hCommand hRun ih.entries).1
      | refused e => exact ih.unfinished hGuard (by rw [hCommand]; rfl) hRun
  | rollback _ hGuard hRun hCame ih =>
      obtain ⟨hName, _, hMarked⟩ := ih.marked _ _ hGuard
      have hCommand := SavepointCommand.ofSql_rollbackTo hName
      cases hCame with
      | ok value => exact (ih.finish hGuard hCommand hRun hMarked.rollbackTo).1
      | refused e => exact ih.unfinished hGuard (by rw [hCommand]; rfl) hRun
  | drop _ hGuard ih => exact ih.unguarded hGuard

/-- A transaction in which the second of two inserts is undone. -/
def inserted : Connection :=
  (execute "INSERT 1" Ledger.network (transactionWith {} Ledger.network .new).2).2

def marked : Connection := (Transaction.savepoint "a" Ledger.network (.new, inserted)).2.2

def insertedMore : Connection := (execute "INSERT 2" Ledger.network marked).2

def undone : Connection :=
  (Savepoint.rollback Ledger.network
    (({ name := "a" }, { savepointDepth := 1 }), insertedMore)).2.2

theorem reached_inserted : Reached Ledger.savepointServer .new
    { conn := inserted, txn := .new, work := ["INSERT 1"] } := by
  have hSettled := Transport.settled_new Ledger.protocol
  have hBegin : transactionWith {} Ledger.network .new =
      (.ok .new, (transactionWith {} Ledger.network .new).2) := rfl
  have hInsert : ∃ result, execute "INSERT 1" Ledger.network
      (transactionWith {} Ledger.network .new).2 = (.ok result, inserted) := ⟨_, rfl⟩
  obtain ⟨result, hInsert⟩ := hInsert
  exact .statement (.begin {} (.inr ⟨hSettled.tidy, fun _ => hSettled⟩) rfl hBegin) (by decide)
    hInsert (.ok result)

theorem reached_insertedMore : Reached Ledger.savepointServer .new
    { conn := insertedMore, txn := { savepointDepth := 1 },
      guard := some ({ name := "a" }, ["INSERT 1"]), work := ["INSERT 2", "INSERT 1"] } := by
  have hMark : Transaction.savepoint "a" Ledger.network (.new, inserted) =
      (.ok { name := "a" }, ({ savepointDepth := 1 }, marked)) := rfl
  have hInsert : ∃ result, execute "INSERT 2" Ledger.network marked =
      (.ok result, insertedMore) := ⟨_, rfl⟩
  obtain ⟨result, hInsert⟩ := hInsert
  exact .statement (.savepoint reached_inserted rfl (by decide) hMark) (by decide) hInsert
    (.ok result)

theorem rollback_insertedMore : Savepoint.rollback Ledger.network
    (({ name := "a" }, { savepointDepth := 1 }), insertedMore) =
      (.ok (), (({ name := "a", released := true }, { savepointDepth := 0 }), undone)) := rfl

end Scope
end PgClient
