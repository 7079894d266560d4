import PgClient.Query.Simple
import PgClient.Reconnect.Session

/-!
Transactions: the guard that borrows a connection, savepoints under it, and closures run in
a transaction of their own.
-/

namespace PgClient

open Connection

inductive IsolationLevel where
  | readUncommitted
  | readCommitted
  | repeatableRead
  | serializable
deriving DecidableEq, Repr

def IsolationLevel.asStr : IsolationLevel → String
  | .readUncommitted => "READ UNCOMMITTED"
  | .readCommitted => "READ COMMITTED"
  | .repeatableRead => "REPEATABLE READ"
  | .serializable => "SERIALIZABLE"

structure TransactionOptions where
  isolationLevel : Option IsolationLevel := none
  readOnly : Option Bool := none
  deferrable : Option Bool := none
deriving DecidableEq, Repr

def TransactionOptions.toBeginSql (options : TransactionOptions) : String :=
  "BEGIN" ++
    (match options.isolationLevel with
      | some level => " ISOLATION LEVEL " ++ level.asStr
      | none => "") ++
    (match options.readOnly with
      | some readOnly => if readOnly then " READ ONLY" else " READ WRITE"
      | none => "") ++
    (if options.deferrable = some true then " DEFERRABLE" else "")

/-- The guard besides its borrow of the connection. -/
structure Transaction where
  committed : Bool := false
  savepointDepth : UInt32 := 0
deriving DecidableEq, Repr

structure Savepoint where
  name : String
  released : Bool := false
deriving DecidableEq, Repr

namespace Transaction

def new : Transaction := {}

def isFailed (conn : Connection) : Bool := conn.transactionStatus = .failed

/-- What both ends of a transaction have in common. -/
def finish (sql : String) : Owner Transaction Unit := do
  let _ ← .onSnd (execute sql)
  .modify fun (txn, conn) => ({ txn with committed := true }, conn)

def commit : Owner Transaction Unit := finish "COMMIT"

def rollback : Owner Transaction Unit := finish "ROLLBACK"

def savepoint (name : String) : Owner Transaction Savepoint := do
  let _ ← .onSnd (execute ("SAVEPOINT " ++ quoteIdentifier name))
  .modify fun (txn, conn) => ({ txn with savepointDepth := txn.savepointDepth + 1 }, conn)
  return { name }

/-- `Drop for Transaction`, which cannot send anything. -/
def drop (_ : Transaction) (conn : Connection) : Connection := conn

end Transaction

namespace Savepoint

/-- What both ends of a savepoint have in common. -/
def finish (sql : String) : Owner (Savepoint × Transaction) Unit := do
  let ((savepoint, _), _) ← .get
  let _ ← .onSnd (execute (sql ++ quoteIdentifier savepoint.name))
  .modify fun ((savepoint, txn), conn) =>
    (({ savepoint with released := true },
      { txn with savepointDepth := txn.savepointDepth - 1 }), conn)

def release : Owner (Savepoint × Transaction) Unit := finish "RELEASE SAVEPOINT "

def rollback : Owner (Savepoint × Transaction) Unit := finish "ROLLBACK TO SAVEPOINT "

/-- `Drop for Savepoint`. -/
def drop (savepoint : Savepoint) (txn : Transaction) : Transaction :=
  if savepoint.released then txn else { txn with savepointDepth := txn.savepointDepth - 1 }

end Savepoint

namespace Connection

def transaction : Client Transaction := do
  let _ ← execute "BEGIN"
  return .new

def transactionWith (options : TransactionOptions) : Client Transaction := do
  let _ ← execute options.toBeginSql
  return .new

/-- Code that owns a guard; however it ends, the guard is dropped. -/
def underGuard {α : Type} (txn : Transaction) (body : Owner Transaction α) : Client α :=
  fun net conn =>
    ((body net (txn, conn)).1, (body net (txn, conn)).2.1.drop (body net (txn, conn)).2.2)

def withTransaction {α : Type} (f : Owner Transaction α) : Client α := do
  let txn ← transaction
  underGuard txn do
    match ← f.attempt with
    | .ok value =>
        Transaction.commit
        return value
    | .error e =>
        let _ ← Transaction.rollback.attempt
        .fail e

end Connection
end PgClient
