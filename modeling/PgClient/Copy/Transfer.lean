import PgClient.Connection.Posting
import PgClient.Copy.TextRoundTrip
import PgClient.Pairing.Copies
import PgClient.Protocol.CopyServer
import PgClient.Replies.Portals

/-!
What reaches the server in the course of a COPY from the client: the data of every write, in
order and once, and a `CopyDone` from `finish` alone. A write that fails is not taken back:
what it has left in the write buffer goes out with the next flush.
-/

namespace PgClient

open Drive Async Connection

namespace Connection

section Opening

variable {net : Network} {t : Transport}

theorem onlyRead_readCopyStart {response : BackendMessage → Option CopyResponseBody}
    (hResponse : ∀ message body, response message = some body →
      message = .copyInResponse body ∨ message = .copyOutResponse body) (violation : String) :
    Keeps net (OnlyRead t) (readCopyStart response violation) := by
  refine keeps_bind (keeps_withLocal (keeps_onlyRead (orderly_copyStart hResponse))) fun start => ?_
  cases start with
  | response format columnFormats => exact keeps_pure _
  | serverError body => exact keeps_bind (onlyRead_drainServerError body) fun _ => keeps_fail _
  | unexpected =>
      refine keeps_bind onlyRead_readUntilReady fun _ => ?_
      exact keeps_bind (keeps_modify fun _ h => h) fun _ => keeps_fail _

/-- Opening a COPY sends its query and reads. -/
theorem opened_of_copyIn {sql : String} {conn conn' : Connection} {copy : CopyIn}
    (h : copyIn sql net conn = (.ok copy, conn')) :
    copy.done = false ∧ conn'.transport.writeBuf = [] ∧
      conn'.transport.history = .query sql :: conn.transport.posted := by
  obtain ⟨start, conn₃, hStart, hCopy⟩ := ok_of_bind h
  obtain ⟨_, conn₁, hTransition, hStart⟩ := ok_of_bind hStart
  obtain ⟨_, conn₂, hSend, hRead⟩ := ok_of_bind hStart
  cases hCopy
  have hSent := congrArg Connection.transport (sent_of_send net conn₁ hSend)
  rw [transport_of_transition hTransition] at hSent
  have hKeeps : Keeps net (OnlyRead conn₂.transport)
      (readCopyStart copyInResponse expectedCopyIn) :=
    onlyRead_readCopyStart copyInResponse_eq expectedCopyIn
  have hKept := hKeeps conn₂ (onlyRead_self conn₂)
  rw [hRead] at hKept
  rw [hSent] at hKept
  exact ⟨rfl, hKept.after_send⟩

end Opening

end Connection

namespace CopyIn

/-- A call that sends data. -/
inductive Write where
  | data (bytes : Bytes)
  | row (columns : List String)
  | csvRow (columns : List String) (delimiter quote : Char)
  | csvRowWithNull (columns : List (Option String)) (delimiter quote : Char) (nullString : String)

namespace Write

def run : Write → Owner CopyIn Unit
  | .data bytes => write bytes
  | .row columns => writeRow columns
  | .csvRow columns delimiter quote => writeCsvRow columns delimiter quote
  | .csvRowWithNull columns delimiter quote nullString =>
      writeCsvRowWithNull columns delimiter quote nullString

def bytes : Write → Bytes
  | .data bytes => bytes
  | .row columns => Copy.rowData columns
  | .csvRow columns delimiter quote => lineBytes (Copy.csvRow columns delimiter quote)
  | .csvRowWithNull columns delimiter quote nullString =>
      lineBytes (Copy.csvRowWithNull columns delimiter quote nullString)

theorem run_eq (w : Write) : w.run = CopyIn.write w.bytes := by
  cases w <;> rfl

/-- The calls one after the other, whatever each of them returns. -/
def runAll (net : Network) : List Write → CopyIn × Connection → CopyIn × Connection
  | [], s => s
  | w :: writes, s => runAll net writes (w.run net s).2

end Write

/-- The messages of the writes whose data can be encoded. -/
def written (net : Network) (writes : List Write) : List FrontendMessage :=
  net.encodable (writes.map fun w => .copyData w.bytes)

variable {net : Network} {s s' : CopyIn × Connection}

theorem fst_runAll (writes : List Write) (s : CopyIn × Connection) :
    (Write.runAll net writes s).1 = s.1 := by
  induction writes generalizing s with
  | nil => rfl
  | cons w writes ih =>
      rw [Write.runAll, ih, Write.run_eq]
      rfl

theorem posted_runAll (writes : List Write) (s : CopyIn × Connection) :
    (Write.runAll net writes s).2.transport.posted =
      (written net writes).reverse ++ s.2.transport.posted := by
  induction writes generalizing s with
  | nil => rfl
  | cons w writes ih =>
      have hWrite : (w.run net s).2.2.transport.posted =
          (net.encodable [.copyData w.bytes]).reverse ++ s.2.transport.posted := by
        rw [Write.run_eq]
        exact posted_send net s.2 _
      have hSplit : written net (w :: writes) =
          net.encodable [.copyData w.bytes] ++ written net writes := by
        rw [written, List.map_cons, Network.encodable, ← List.singleton_append, List.filter_append]
        rfl
      rw [Write.runAll, ih, hWrite, hSplit, List.reverse_append, List.append_assoc]

section Finish

/-- The rows that have been copied as far as a message tells. -/
def told (rows : Nat) : Entry → Nat
  | .ok (.commandComplete tag) => (CommandTag.ofBody tag).rowsAffected.getD 0
  | _ => rows

theorem learns_finish : Learns told finishBody := by
  intro rows conn message
  simp only [finishBody, asyncFirst]
  cases hAsync : conn.handleAsyncMessage message with
  | some conn' =>
      have hKind : message.isAsync := by rw [← handleAsyncMessage_isSome conn, hAsync]; rfl
      cases message <;> first | exact ⟨rfl, _, rfl, rfl, rfl⟩ | cases hKind
  | none =>
      cases message with
      | readyForQuery status => exact ⟨status, rfl, rfl⟩
      | errorResponse body => trivial
      | _ => exact ⟨rfl, _, rfl, rfl, rfl⟩

/-- A reply that ends a COPY with this count of rows. -/
def Concluded (t t' : Transport) (rows : Nat) : Prop :=
  ∃ taken status, t.inbox = taken ++ .ok (.readyForQuery status) :: t'.inbox ∧
    rows = taken.foldl told 0 ∧ ∀ entry ∈ taken, Passed entry

theorem finishLoop_ok {conn conn' : Connection} {rows : Nat}
    (h : finishLoop net conn = (.ok (.ready, rows), conn')) :
    conn'.state = .idle ∧ OnlyRead conn.transport conn' ∧
      Concluded conn.transport conn'.transport rows := by
  obtain ⟨ending, s₁, hLoop, hEnding⟩ : ∃ ending s₁,
      messageLoop finishBody net (0, conn) = (.ok ending, s₁) ∧
        (ending, s₁.1, s₁.2) = (ReplyEnd.ready, rows, conn') := by
    simp only [finishLoop, withLocal_apply, bind_apply] at h
    revert h
    rcases messageLoop finishBody net (0, conn) with ⟨_ | _ | _, s₁⟩ <;> rintro ⟨⟩
    exact ⟨_, s₁, rfl, rfl⟩
  cases hEnding
  have hKeeps : Keeps net (fun s : Nat × Connection => OnlyRead conn.transport s.2)
      (messageLoop finishBody) := keeps_onlyRead orderly_finish
  have hRead := hKeeps (0, conn) (onlyRead_self conn)
  rw [hLoop] at hRead
  obtain ⟨_, hState⟩ := messageLoop_state orderly_finish hLoop rfl
  obtain ⟨taken, status, hInbox, hRows, hPassed⟩ := learnt_of_ready learns_finish hLoop
  exact ⟨hState, hRead, taken, status, hInbox, hRows, hPassed⟩

end Finish

section Ends

/-- How a COPY that was opened on a connection and has seen these calls ends: with all of its
data sent, and as having succeeded only by `finish`. -/
structure Delivers (net : Network) (sql : String) (writes : List Write) (conn : Connection)
    (s : CopyIn × Connection) : Prop where
  finished : ∀ rows s', finish net s = (.ok rows, s') →
    s'.1.done ∧ s'.2.state = .idle ∧ s'.2.transport.writeBuf = [] ∧
      s'.2.transport.history =
        .copyDone :: ((written net writes).reverse ++ .query sql :: conn.transport.posted) ∧
      Concluded ((s.2.transport.flushed net).deliver net .copyDone) s'.2.transport rows
  cancelled : ∀ reason s', cancel reason net s = (.ok (), s') →
    s'.1.done ∧ s'.2.state = .idle ∧ s'.2.transport.writeBuf = [] ∧
      s'.2.transport.history =
        .copyFail reason :: ((written net writes).reverse ++ .query sql :: conn.transport.posted)
  dropped : (drop net s.1 s.2).state = .closed ∧
    (drop net s.1 s.2).transport.history <:+
      (written net writes).reverse ++ .query sql :: conn.transport.posted

private theorem ok_of_onSnd {α : Type} {x : Client α} {a : α}
    (h : (onSnd x : Owner CopyIn α) net s = (.ok a, s')) :
    s'.1 = s.1 ∧ x net s.2 = (.ok a, s'.2) := by
  rw [onSnd_apply] at h
  rw [← (Prod.mk.inj h).2, ← (Prod.mk.inj h).1]
  exact ⟨rfl, rfl⟩

theorem finish_ok {rows : Nat} (h : finish net s = (.ok rows, s')) :
    s'.1.done ∧ s'.2.state = .idle ∧ s'.2.transport.writeBuf = [] ∧
      s'.2.transport.history = .copyDone :: s.2.transport.posted ∧
      Concluded ((s.2.transport.flushed net).deliver net .copyDone) s'.2.transport rows := by
  obtain ⟨_, s₁, hSend, h⟩ := ok_of_bind h
  obtain ⟨⟨ending, count⟩, s₂, hLoop, h⟩ := ok_of_bind h
  obtain ⟨-, hSend⟩ := ok_of_onSnd hSend
  obtain ⟨-, hLoop⟩ := ok_of_onSnd hLoop
  cases ending with
  | serverError body =>
      obtain ⟨_, s₃, -, h⟩ := ok_of_bind h
      cases h
  | ready =>
      cases h
      obtain ⟨hState, hRead, hConcluded⟩ := finishLoop_ok hLoop
      rw [sent_of_send net s.2 hSend] at hRead hConcluded
      exact ⟨rfl, hState, hRead.after_send.1, hRead.after_send.2, hConcluded⟩

theorem cancel_ok {reason : String} (h : cancel reason net s = (.ok (), s')) :
    s'.1.done ∧ s'.2.state = .idle ∧ s'.2.transport.writeBuf = [] ∧
      s'.2.transport.history = .copyFail reason :: s.2.transport.posted := by
  obtain ⟨_, s₁, hSend, h⟩ := ok_of_bind h
  obtain ⟨_, s₂, hRead, h⟩ := ok_of_bind h
  obtain ⟨-, hSend⟩ := ok_of_onSnd hSend
  obtain ⟨-, hRead⟩ := ok_of_onSnd hRead
  have hKeeps : Keeps net (OnlyRead s₁.2.transport) readUntilReady := onlyRead_readUntilReady
  have hRead := hRead ▸ hKeeps s₁.2 (onlyRead_self s₁.2)
  cases h
  rw [sent_of_send net s.2 hSend] at hRead
  exact ⟨rfl, rfl, hRead.after_send⟩

/-- A drop sends nothing. -/
theorem drop_unfinished {conn : Connection} {copy : CopyIn} (hDone : copy.done = false) :
    (drop net copy conn).state = .closed ∧ (drop net copy conn).transport = conn.transport := by
  simp only [drop, hDone, cancelCopyInSync, trySyncWriteAndFlush]
  cases net.encode (.copyFail "CopyIn dropped without finish") <;> exact ⟨rfl, rfl⟩

/-- A COPY with two calls before its end. -/
def twoWrites : List Write := [.row ["a", "b"], .data [99, 10]]

def copied : CopyIn × Connection :=
  Write.runAll CopyServer.network twoWrites ({ format := 0, columnFormats := [], done := false },
    (copyIn "COPY t FROM STDIN" CopyServer.network .new).2)

end Ends

end CopyIn
end PgClient
