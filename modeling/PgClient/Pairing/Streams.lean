import PgClient.Pairing.Operations

/-!
Row streams and the operations made of them.
-/

namespace PgClient

open Connection Async

namespace RowStream

variable {net : Network} {server : Server net}

/-- A stream whose reply has not been read to its end. -/
structure Unfinished (server : Server net) (s : RowStream × Connection) : Prop where
  stream : s.1.isDone = false
  conn : Mid server s.2

/-- What the end of the read loop says of its stream. -/
def Event.Fits : Event → RowStream → Prop
  | .row _, stream => stream.isDone = false
  | .finished, stream => stream.isDone
  | .serverError _, _ => True

theorem nextBody_next {s s' : RowStream × Connection} {message : BackendMessage}
    (h : nextBody s message = .next s') (hStream : s.1.isDone = false) : s'.1.isDone = false := by
  obtain ⟨⟨columns, state⟩, conn⟩ := s
  simp only [nextBody, Connection.asyncFirst] at h
  cases hAsync : conn.handleAsyncMessage message with
  | some conn' =>
      simp only [hAsync] at h
      cases h
      exact hStream
  | none =>
      simp only [hAsync] at h
      split at h <;> first | (split at h <;> cases h <;> rfl) | (cases h <;>
        first | rfl | exact hStream)

theorem nextBody_exit {s s' : RowStream × Connection} {message : BackendMessage} {event : Event}
    (h : nextBody s message = .exit (.ok event) s') (hStream : s.1.isDone = false) :
    event.Fits s'.1 := by
  obtain ⟨⟨columns, state⟩, conn⟩ := s
  simp only [nextBody, Connection.asyncFirst] at h
  cases hAsync : conn.handleAsyncMessage message with
  | some conn' =>
      simp only [hAsync] at h
      cases h
  | none =>
      simp only [hAsync] at h
      split at h <;> first | (split at h <;> cases h <;> exact hStream) | (cases h <;>
        first | rfl | trivial)

theorem triple_next :
    Triple net (Unfinished server) next
      (fun row s => match row with
        | some _ => Unfinished server s
        | none => Done server s.2)
      (fun e s => Failed server e s.2) := by
  have hStream : Triple net (fun s : RowStream × Connection => s.1.isDone = false)
      (messageLoop nextBody) (fun event s => event.Fits s.1) (fun _ _ => True) :=
    triple_messageLoop_local (fun stream => stream.isDone = false) Event.Fits
      (fun _ _ _ hOpen hStep => nextBody_next hStep hOpen)
      fun _ _ _ _ hOpen hStep => nextBody_exit hStep hOpen
  have hLoop : Triple net (Unfinished server) (messageLoop nextBody)
      (fun event s => LoopPost server (Busy server) Event.progress toIdle event s.2 ∧
        event.Fits s.1) (fun e s => Failed server e s.2) :=
    ((orderly_next.triple stable_busy).and hStream).mono
      (fun _ h => ⟨h.conn, h.stream⟩) (fun _ _ h => h) fun _ _ h => h.1.failed
  apply Triple.get_bind
  intro (stream, conn) h
  dsimp only
  rw [if_neg (by simp [h.stream])]
  apply Triple.pre_mono _ (fun s (hs : s = (stream, conn)) => hs ▸ h)
  apply Triple.bind hLoop
  intro event
  cases event with
  | row row => exact Triple.pure fun _ h => ⟨h.2, h.1⟩
  | finished =>
      apply Triple.pure
      rintro s ⟨⟨hBoundary, _, hState⟩, _⟩
      exact ⟨hState, hBoundary⟩
  | serverError body =>
      have hDrain : Triple net (fun s : RowStream × Connection => Mid server s.2)
          (Async.onSnd (drainServerError body)) (fun _ s => Done server s.2)
          (fun e s => Failed server e s.2) := Triple.onSnd fun _ => triple_drainServerError body
      apply Triple.bind (hDrain.pre_mono fun _ h => h.1.1)
      intro serverErr
      refine Triple.modify_bind (fun s => Done server s.2) (fun _ h => h) ?_
      exact Triple.fail fun _ h => h.failed _

theorem triple_drainLoop (fuel : Nat) (rows : List Row) :
    Triple net (Unfinished server) (drainLoop fuel rows) (fun _ s => Done server s.2)
      (fun e s => Failed server e s.2) := by
  induction fuel generalizing rows with
  | zero => exact Triple.wait
  | succ fuel ih =>
      apply Triple.bind triple_next
      intro row
      cases row with
      | some row => exact ih _
      | none => exact Triple.pure fun _ h => h

theorem triple_drain :
    Triple net (Unfinished server) drain (fun _ s => Done server s.2)
      (fun e s => Failed server e s.2) :=
  fun s h => triple_drainLoop _ _ s h

theorem triple_consume :
    Triple net (Unfinished server) consume (fun _ s => Done server s.2)
      (fun e s => Failed server e s.2) := by
  apply Triple.bind triple_drain
  intro _
  apply Triple.get_bind
  intro (stream, conn) h
  dsimp only
  split
  · exact Triple.pure fun s hs => hs ▸ h
  · exact Triple.pure fun s hs => hs ▸ h

/-- Dropping a stream does not touch the wire or the state. -/
theorem drop_eq (stream : RowStream) (conn : Connection) :
    drop stream conn = { conn with needsRecovery := !stream.isDone || conn.needsRecovery } := by
  simp only [drop]
  split
  case isTrue h => simp [h]
  case isFalse h => simp [h]

theorem failed_drop {conn : Connection} {e : PgError} (stream : RowStream)
    (h : Failed server e conn) : Failed server e (drop stream conn) := by
  rw [drop_eq]
  exact h.setRecovery _

theorem done_drop {conn : Connection} (stream : RowStream) (h : Done server conn) :
    Done server (drop stream conn) := by
  rw [drop_eq]
  exact h.setRecovery _

theorem good_drop {conn : Connection} (stream : RowStream) (h : Good server conn) :
    Good server (drop stream conn) := by
  rw [drop_eq]
  exact good_setRecovery h _

theorem triple_scope {α : Type} {stream : RowStream} {body : Owner RowStream α}
    (hStream : stream.isDone = false)
    (hBody : Triple net (Unfinished server) body (fun _ s => Done server s.2)
      (fun e s => Failed server e s.2)) :
    Triple net (Mid server) (scope stream body) (fun _ => Done server) (Failed server) := by
  intro conn h
  have hEnd := hBody (stream, conn) ⟨hStream, h⟩
  simp only [scope]
  revert hEnd
  match body net (stream, conn) with
  | (.ok _, s) => exact fun hEnd => done_drop s.1 hEnd
  | (.err _, s) => exact fun hEnd => failed_drop s.1 hEnd
  | (.pending, _) => exact id

end RowStream

namespace Connection

variable {net : Network} {server : Server net}

/-- What the operations that return a row stream make of a connection. -/
def Opens (server : Server net) (x : Client RowStream) : Prop :=
  Triple net (Good server) x (fun stream conn => stream.isDone = false ∧ Mid server conn)
    (Failed server)

theorem opens_queryStream (sql : String) : Opens server (queryStream sql) := by
  apply Triple.bind triple_recover
  intro _
  apply Triple.bind (triple_transition rfl)
  intro _
  apply Triple.bind (triple_query_message sql)
  exact fun _ => Triple.pure fun _ h => ⟨rfl, h⟩

theorem opens_queryPreparedStream (stmt : PreparedStatement) (params : List ToSql) :
    Opens server (queryPreparedStream stmt params) := by
  apply Triple.bind triple_recover
  intro _
  apply Triple.bind (triple_transition rfl)
  intro _
  apply Triple.bind (triple_encodeParams fun _ => encodeParamsBinary_error)
  intro values
  apply Triple.bind (triple_preparedRequest stmt values)
  exact fun _ => Triple.pure fun _ h => ⟨rfl, h⟩

theorem opens_queryParamsStream (sql : String) (params : List ToSql) :
    Opens server (queryParamsStream sql params) := by
  apply Triple.bind triple_recover
  intro _
  apply Triple.bind (triple_transition rfl)
  intro _
  apply Triple.bind (triple_encodeParams fun _ => encodeParamsText_error)
  intro values
  apply Triple.bind (triple_unnamedRequest sql values)
  intro _
  apply Triple.bind
  · apply Triple.withLocal
    exact (orderly_preamble.triple stable_busy).mono (fun _ h => h.2) (fun _ _ h => h)
      fun _ _ h => h.failed
  intro preamble
  cases preamble with
  | columns columns => exact Triple.pure fun _ h => ⟨rfl, h⟩
  | serverError body =>
      exact (triple_failServer' (triple_drainServerError body)).pre_mono fun _ h => h.1

theorem sound_query (sql : String) : Sound server (query sql) := by
  apply Triple.bind (opens_queryStream sql)
  rintro stream conn ⟨hStream, hMid⟩
  refine RowStream.triple_scope hStream ?_ conn hMid
  apply Triple.bind RowStream.triple_drain
  intro rows
  exact triple_result _

theorem triple_eachLoop {f : List Row → Row → Except PgError Unit}
    (hf : ∀ seen row e, f seen row = .error e → e.endsReply = false) (fuel : Nat)
    (seen : List Row) :
    Triple net (RowStream.Unfinished server) (eachLoop f fuel seen) (fun _ s => Done server s.2)
      (fun e s => Failed server e s.2) := by
  induction fuel generalizing seen with
  | zero => exact Triple.wait
  | succ fuel ih =>
      apply Triple.bind RowStream.triple_next
      intro row
      cases row with
      | none => exact Triple.pure fun _ h => h
      | some row =>
          apply Triple.bind_via (fun _ => RowStream.Unfinished server)
          · exact Triple.lift (fun _ _ _ h => h)
              fun e hError _ h => failed_of_good (hf seen row e hError) (Mid.good h.conn)
          · exact fun _ => ih _

theorem sound_queryEach (sql : String) {f : List Row → Row → Except PgError Unit}
    (hf : ∀ seen row e, f seen row = .error e → e.endsReply = false) :
    Sound server (queryEach sql f) := by
  apply Triple.bind (opens_queryStream sql)
  rintro stream conn ⟨hStream, hMid⟩
  refine RowStream.triple_scope hStream ?_ conn hMid
  apply Triple.get_bind
  rintro ⟨stream, conn⟩ h
  apply Triple.pre_mono _ (fun s (hs : s = (stream, conn)) => hs ▸ h)
  apply Triple.bind (triple_eachLoop hf _ _)
  intro _
  apply Triple.get_bind
  rintro ⟨stream, conn⟩ hDone
  dsimp only
  split
  · exact Triple.pure fun _ hs => hs ▸ hDone
  · exact Triple.fail fun _ hs => hs ▸ hDone.failed _

theorem sound_map {α β : Type} {x : Client α} (h : Sound server x) (f : α → β) :
    Sound server (x >>= fun a => pure (f a)) :=
  Triple.bind h fun _ => Triple.pure fun _ h => h

theorem sound_execute (sql : String) : Sound server (execute sql) :=
  sound_map (sound_query sql) _

theorem sound_queryOne (sql : String) : Sound server (queryOne sql) :=
  sound_map (sound_query sql) _

theorem sound_ping : Sound server ping := sound_map (sound_query _) fun _ => ()

end Connection
end PgClient
