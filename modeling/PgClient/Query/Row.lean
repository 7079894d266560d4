import Mathlib.Algebra.GroupWithZero.Nat
import PgClient.Connection.Io

/-!
Rows, columns, command tags and results, and the reading of their message bodies.
-/

namespace PgClient

abbrev FieldDescription := Field

structure Row where
  columns : List FieldDescription
  values : List (Option Bytes)
deriving DecidableEq, Repr

structure CommandTag where
  tag : String := ""
deriving DecidableEq, Repr

namespace CommandTag

/-- The tag of a `CommandComplete` body. -/
def ofBody (tag : Option String) : CommandTag := { tag := tag.getD "" }

/-- The characters that `split_whitespace` splits at. -/
def isSpace (c : Char) : Bool :=
  let n := c.toNat
  (9 ≤ n && n ≤ 13) || n = 0x20 || n = 0x85 || n = 0xA0 || n = 0x1680 ||
    (0x2000 ≤ n && n ≤ 0x200A) || n = 0x2028 || n = 0x2029 || n = 0x202F || n = 0x205F ||
    n = 0x3000

def words (s : String) : List String :=
  ((s.toList.splitOnP isSpace).filter (· ≠ [])).map String.ofList

def rowsAffected (tag : CommandTag) : Option Nat :=
  match words tag.tag with
  | ["INSERT", _, n] | ["UPDATE", n] | ["DELETE", n] | ["SELECT", n] | ["MOVE", n]
  | ["FETCH", n] | ["COPY", n] => parseUnsigned (2 ^ 64) n
  | _ => none

end CommandTag

structure QueryResult where
  rows : List Row
  commandTag : CommandTag
  columns : List FieldDescription
deriving DecidableEq, Repr

structure ExecuteResult where
  commandTag : CommandTag
deriving DecidableEq, Repr

def readRowDescription (fields : Except IoError (List Field)) :
    Except PgError (List FieldDescription) :=
  Connection.ioResult fields

def readDataRow (values : Except IoError (List (Option Bytes))) :
    Except PgError (List (Option Bytes)) :=
  Connection.ioResult values

@[simp] theorem readRowDescription_ok (fields : List Field) :
    readRowDescription (.ok fields) = .ok fields := rfl

@[simp] theorem readRowDescription_error (e : IoError) :
    readRowDescription (.error e) = .error (.io e) := rfl

@[simp] theorem readDataRow_ok (values : List (Option Bytes)) :
    readDataRow (.ok values) = .ok values := rfl

@[simp] theorem readDataRow_error (e : IoError) : readDataRow (.error e) = .error (.io e) := rfl

end PgClient
