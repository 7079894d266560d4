import PgClient.Transaction.Ledger

/-!
What a commit that returns `Ok` says of the block on the server.
-/

namespace PgClient

open Async Connection

namespace Transaction

variable {net : Network} {conn conn' : Connection} {txn txn' : Transaction}

theorem finish_ok {sql : String} (h : finish sql net (txn, conn) = (.ok (), (txn', conn'))) :
    ∃ result, execute sql net conn = (.ok result, conn') := by
  rw [finish, bind_apply, onSnd_apply] at h
  cases hExecute : execute sql net conn with
  | mk outcome conn₁ =>
      rw [hExecute] at h
      cases outcome with
      | ok result =>
          cases h
          exact ⟨result, rfl⟩
      | err e => cases h
      | pending => cases h

theorem begin_ok {sql : String} (h : (do
      let _ ← execute sql
      return .new : Client Transaction) net conn = (.ok txn, conn')) :
    ∃ result, execute sql net conn = (.ok result, conn') := by
  rw [bind_apply] at h
  cases hExecute : execute sql net conn with
  | mk outcome conn₁ =>
      rw [hExecute] at h
      cases outcome with
      | ok result =>
          cases h
          exact ⟨result, rfl⟩
      | err e => cases h
      | pending => cases h

/-- A closure that has returned `Ok` is followed by a commit. -/
theorem commit_of_withTransaction {α : Type} {f : Owner Transaction α} {value : α}
    {conn₁ conn₂ : Connection} (hBegun : transaction net conn = (.ok txn, conn₁))
    (hRan : f net (txn, conn₁) = (.ok value, (txn', conn₂)))
    (hOk : withTransaction f net conn = (.ok value, conn')) :
    ∃ result, execute "COMMIT" net conn₂ = (.ok result, conn') := by
  have hAttempt : f.attempt net (txn, conn₁) = (.ok (.ok value), (txn', conn₂)) := by
    simp only [attempt, hRan]
  rw [withTransaction, bind_of_ok hBegun, underGuard, bind_of_ok hAttempt] at hOk
  simp only [bind_apply] at hOk
  cases hCommit : Transaction.commit net (txn', conn₂) with
  | mk outcome s =>
      rw [hCommit] at hOk
      cases outcome with
      | ok result =>
          cases hOk
          exact finish_ok hCommit
      | err e => cases hOk
      | pending => cases hOk

end Transaction

/-- A transaction that has been begun, run through and reported as committed, through its
guard or by a closure. -/
inductive ReportsCommit (net : Network) (conn₀ conn₁ conn₂ conn₃ : Connection) : Prop where
  | guard (begin : Client Transaction)
      (hBegin : begin = transaction ∨ ∃ options, begin = transactionWith options)
      {txn txn' txn'' : Transaction} (hBegun : begin net conn₀ = (.ok txn, conn₁))
      (hRun : Session.ReachesLegibly net ⟨.none, conn₁⟩ ⟨.none, conn₂⟩)
      (hCommit : Transaction.commit net (txn', conn₂) = (.ok (), (txn'', conn₃)))
  | closure {α : Type} (f : Owner Transaction α) {value : α} {txn txn' : Transaction}
      (hBegun : transaction net conn₀ = (.ok txn, conn₁))
      (hRan : f net (txn, conn₁) = (.ok value, (txn', conn₂)))
      (hRun : Session.ReachesLegibly net ⟨.none, conn₁⟩ ⟨.none, conn₂⟩)
      (hOk : withTransaction f net conn₀ = (.ok value, conn₃))

namespace ReportsCommit

variable {net : Network} {conn₀ conn₁ conn₂ conn₃ : Connection}

theorem begun (h : ReportsCommit net conn₀ conn₁ conn₂ conn₃) :
    ∃ options : TransactionOptions, ∃ result,
      execute options.toBeginSql net conn₀ = (.ok result, conn₁) := by
  cases h with
  | guard begin hBegin hBegun =>
      obtain rfl | ⟨options, rfl⟩ := hBegin
      · exact ⟨{}, Transaction.begin_ok hBegun⟩
      · exact ⟨options, Transaction.begin_ok hBegun⟩
  | closure f hBegun => exact ⟨{}, Transaction.begin_ok hBegun⟩

theorem run (h : ReportsCommit net conn₀ conn₁ conn₂ conn₃) :
    Session.ReachesLegibly net ⟨.none, conn₁⟩ ⟨.none, conn₂⟩ := by
  cases h with
  | guard _ _ _ hRun => exact hRun
  | closure _ _ _ hRun => exact hRun

theorem committed (h : ReportsCommit net conn₀ conn₁ conn₂ conn₃) :
    ∃ result, execute "COMMIT" net conn₂ = (.ok result, conn₃) := by
  cases h with
  | guard _ _ _ _ hCommit => exact Transaction.finish_ok hCommit
  | closure _ hBegun hRan _ hOk => exact Transaction.commit_of_withTransaction hBegun hRan hOk

end ReportsCommit

section Commit

variable {net : Network} {server : TransactionServer net}

theorem held_fresh {conn : Connection} (hFresh : conn.Fresh) :
    Held server.toServer Handle.none conn := by
  refine .inr ⟨?_, fun _ => ?_⟩ <;> rw [hFresh.1]
  · exact (Transport.settled_new server.toServer).tidy
  · exact Transport.settled_new server.toServer

/-- A begin that returns `Ok` leaves a block open. -/
theorem block_of_begin {conn conn' : Connection} (hGood : Good server.toServer conn)
    {options : TransactionOptions} {result : ExecuteResult}
    (hRun : execute options.toBeginSql net conn = (.ok result, conn')) :
    ∃ id, server.block conn'.transport.history = .active id := by
  obtain ⟨hAccepts, hHistory, _⟩ := execute_accepted hGood hRun
  rw [hHistory]
  exact (server.begins _ options hAccepts).1

/-- A commit that returns `Ok` has committed the transaction exactly when the block that was
begun is still open and not failed where `COMMIT` reaches the server, or has been committed
before. -/
theorem reportsCommit_iff (server : TransactionServer net)
    {conn conn₀ conn₁ conn₂ conn₃ : Connection}
    (hFresh : conn.Fresh) (hBefore : Session.ReachesLegibly net ⟨.none, conn⟩ ⟨.none, conn₀⟩)
    (h : ReportsCommit net conn₀ conn₁ conn₂ conn₃) :
    ∃ id, server.block conn₁.transport.history = .active id ∧
      (server.committed conn₃.transport.history id ↔
        server.block (conn₂.arrival net) = .active id ∨
          server.committed (conn₂.arrival net) id) := by
  have hGood₀ : Good server.toServer conn₀ := held_of_reachesLegibly (held_fresh hFresh) hBefore
  obtain ⟨options, _, hBegun⟩ := h.begun
  obtain ⟨id, hBlock⟩ := block_of_begin hGood₀ hBegun
  obtain ⟨_, _, hDone⟩ := execute_accepted hGood₀ hBegun
  have hGood₂ : Good server.toServer conn₂ :=
    @held_of_reachesLegibly net server.toServer ⟨.none, conn₁⟩ ⟨.none, conn₂⟩ hDone.good h.run
  obtain ⟨_, hCommit⟩ := h.committed
  obtain ⟨hAccepts, hHistory, _⟩ := execute_accepted hGood₂ hCommit
  refine ⟨id, hBlock, ?_⟩
  rw [hHistory, (server.commit _ hAccepts).2 id, or_comm]

/-- A transaction with one statement on the small server, statement by statement. -/
def afterBegin : Connection := (transaction Ledger.network .new).2

def afterStatement (sql : String) : Connection := (execute sql Ledger.network afterBegin).2

def afterCommit (sql : String) : Connection :=
  (execute "COMMIT" Ledger.network (afterStatement sql)).2

theorem reportsCommit_ledger {sql : String} {outcome : Outcome PgError Unit}
    (hStep : Session.step Ledger.network ⟨.none, afterBegin⟩ (.operation (.execute sql)) =
      some (outcome, ⟨.none, afterStatement sql⟩)) (hReturned : outcome ≠ .pending)
    (hCommit : Transaction.commit Ledger.network (.new, afterStatement sql) =
      (.ok (), ({ committed := true }, afterCommit sql))) :
    ReportsCommit Ledger.network .new afterBegin (afterStatement sql) (afterCommit sql) := by
  have hLegible : Session.Legible Ledger.network ⟨.none, afterBegin⟩
      (.operation (.execute sql)) := trivial
  exact .guard transaction (.inl rfl) rfl (.step .start hLegible hStep hReturned) hCommit

/-- A transaction in which nothing fails. -/
theorem reportsCommit_insert :
    ∃ id, Ledger.server.block afterBegin.transport.history = .active id ∧
      (Ledger.server.committed (afterCommit "INSERT").transport.history id ↔
        Ledger.server.block ((afterStatement "INSERT").arrival Ledger.network) = .active id ∨
          Ledger.server.committed ((afterStatement "INSERT").arrival Ledger.network) id) :=
  reportsCommit_iff Ledger.server ⟨rfl, rfl⟩ .start (reportsCommit_ledger rfl (by decide) rfl)

/-- The error of a statement is passed over, and the commit of the failed block returns `Ok`. -/
theorem not_reportsCommit_committed :
    ¬ ∀ (net : Network) (server : TransactionServer net) (conn₀ conn₁ conn₂ conn₃ : Connection),
      conn₀.Fresh → ReportsCommit net conn₀ conn₁ conn₂ conn₃ →
      ∀ id, server.block conn₁.transport.history = .active id →
        server.committed conn₃.transport.history id := by
  intro hAll
  have hCommitted := hAll Ledger.network Ledger.server .new afterBegin (afterStatement "FAIL")
    (afterCommit "FAIL") ⟨rfl, rfl⟩ (reportsCommit_ledger rfl (by decide) rfl) ⟨0, 0⟩ rfl
  have hNone : Ledger.committed (afterCommit "FAIL").transport.history = [] := by decide
  have hMem : ⟨0, 0⟩ ∈ Ledger.committed (afterCommit "FAIL").transport.history := hCommitted
  rw [hNone] at hMem
  cases hMem

end Commit

end PgClient
