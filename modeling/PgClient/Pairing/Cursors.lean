import PgClient.Pairing.Streams

/-!
Cursors, cursor streams and COPY transfers.
-/

namespace PgClient

open Connection Async

namespace Connection

variable {net : Network} {server : Server net}

/-- Several operations in a row keep a connection good. -/
theorem Sound.then {α β : Type} {x : Client α} {f : α → Client β} (hx : Sound server x)
    (hf : ∀ a, Sound server (f a)) : Sound server (x >>= f) :=
  Triple.bind hx fun a => (hf a).pre_mono fun _ h => h.good

theorem sound_queryCursor (sql : String) (params : List ToSql) (fetchSize : Int32) :
    Sound server (queryCursor sql params fetchSize) := by
  apply Triple.get_bind
  intro conn hGood
  apply Triple.pre_mono _ (fun s (hs : s = conn) => hs ▸ hGood)
  apply Triple.bind_via (fun _ => Good server)
  · apply Triple.doIf
    · exact fun _ => (sound_map (sound_query "BEGIN") fun _ => ()).mono (fun _ h => h)
        (fun _ _ h => h.good) fun _ _ h => h
    · exact fun _ _ h => h
  intro _
  apply Triple.bind (triple_transition rfl)
  intro _
  apply Triple.bind (triple_encodeParams fun _ => encodeParamsText_error)
  intro values
  apply Triple.get_bind
  intro conn hStarted
  apply Triple.pre_mono _ (fun s (hs : s = conn) => hs ▸ hStarted)
  refine Triple.modify_bind (Started server) (fun _ h => ⟨h.active, h.wire⟩) ?_
  apply Triple.bind
  · exact triple_request _ _ (by simp [openBatch, FrontendMessage.asksReady])
  intro _
  apply Triple.withLocal
  apply Triple.pre_mono _ (fun _ h => h.2)
  apply triple_readReply orderly_cursorOpen
  · exact triple_result _
  · exact fun _ => triple_failServer (triple_drainServerError _)

theorem sound_closePortal (portalName : String) (ownsTransaction : Bool) :
    Sound server (closePortal portalName ownsTransaction) := by
  apply Triple.bind (triple_transition rfl)
  intro _
  apply Triple.bind (triple_request [_] _ (by simp [FrontendMessage.asksReady]))
  intro _
  apply triple_readComplete
  · apply Triple.doIf
    · exact fun _ => (sound_map (sound_execute "COMMIT") fun _ => ()).pre_mono fun _ h => h.good
    · exact fun _ _ h => h
  · exact fun _ => triple_failServer' (triple_drainServerError _)

/-- A read loop of an owner with its rows as one more local variable. -/
theorem triple_readBatch {L μ α : Type} {m : μ}
    {body : (L × μ) × Connection → BackendMessage →
      Drive.Step ((L × μ) × Connection) (Except PgError ReplyEnd)}
    (hBody : Orderly ReplyEnd.progress toIdle body) {k : ReplyEnd × μ → Owner L α}
    {ok : α → L × Connection → Prop}
    (hReady : ∀ m, Triple net (fun s => Done server s.2) (k (.ready, m)) ok
      fun e s => Failed server e s.2)
    (hError : ∀ errorBody m, Triple net (fun s => Mid server s.2) (k (.serverError errorBody, m)) ok
      fun e s => Failed server e s.2) :
    Triple net (fun s => Mid server s.2) (Async.withExtra m (messageLoop body) >>= k) ok
      (fun e s => Failed server e s.2) := by
  apply Triple.bind_via (fun result s =>
    LoopPost server (Busy server) ReplyEnd.progress toIdle result.1 s.2)
  · apply Triple.withExtra
    exact (hBody.triple stable_busy).mono (fun _ h => h) (fun _ _ h => h) fun _ _ h => h.failed
  intro (ending, m)
  cases ending with
  | ready =>
      apply (hReady m).pre_mono
      rintro s ⟨hBoundary, _, hState⟩
      exact ⟨hState, hBoundary⟩
  | serverError errorBody => exact (hError errorBody m).pre_mono fun _ h => h.1

/-- One round trip with a portal. -/
theorem triple_execute_portal {L : Type} (portal : String) (maxRows : Int32) :
    Triple net (fun s : L × Connection => Started server s.2)
      (Async.onSnd (sendBatch [.execute portal maxRows, .sync])) (fun _ s => Mid server s.2)
      (fun e s => Failed server e s.2) :=
  Triple.onSnd fun _ => triple_request [_] _ (by simp [FrontendMessage.asksReady])

theorem triple_transition_owner {L : Type} {state : ConnectionState} (hActive : state.isActive) :
    Triple net (fun s : L × Connection => Good server s.2) (Async.onSnd (transition state))
      (fun _ s => Started server s.2) (fun e s => Failed server e s.2) :=
  Triple.onSnd fun _ => triple_transition hActive

end Connection

namespace Cursor

variable {net : Network} {server : Server net}

theorem sound_close (cursor : Cursor) : Sound server cursor.close := sound_closePortal _ _

/-- A cursor that is done answers for itself; otherwise a fetch is an operation. -/
theorem triple_fetchNext (cursor : Cursor) :
    Triple net (fun s => s.1 = cursor ∧ Good server s.2) fetchNext
      (fun _ s => Good server s.2 ∧ (cursor.done = false → Done server s.2))
      (fun e s => Failed server e s.2) := by
  apply Triple.get_bind
  rintro ⟨_, conn⟩ ⟨rfl, hGood⟩
  dsimp only
  apply Triple.pre_mono _ (fun s (hs : s = (_, conn)) => hs ▸ hGood)
  apply Triple.ite
  · intro hDone
    exact Triple.pure fun _ h => ⟨h, fun hOpen => absurd hDone (by simp [hOpen])⟩
  · intro _
    apply Triple.bind (triple_transition_owner rfl)
    intro _
    apply Triple.bind (triple_execute_portal _ _)
    intro _
    apply triple_readBatch orderly_fetch
    · exact fun _ => Triple.pure fun _ h => ⟨h.good, fun _ => h⟩
    · exact fun _ _ => triple_failServer (triple_drainServerError _)

end Cursor

namespace CursorStream

variable {net : Network} {server : Server net}

/-- What the operations of a stream keep: between them its last reply has been read. -/
def Steady {α : Type} (server : Server net) (x : Owner CursorStream α) : Prop :=
  Triple net (fun s => Done server s.2) x (fun _ s => Done server s.2)
    (fun e s => Failed server e s.2)

theorem triple_fetchBatch : Triple net (fun s => Good server s.2) fetchBatch
    (fun _ s => Done server s.2) (fun e s => Failed server e s.2) := by
  apply Triple.get_bind
  rintro ⟨stream, conn⟩ hGood
  apply Triple.pre_mono _ (fun s (hs : s = (stream, conn)) => hs ▸ hGood)
  apply Triple.bind (triple_transition_owner rfl)
  intro _
  apply Triple.bind (triple_execute_portal _ _)
  intro _
  apply triple_readBatch orderly_cursorBatch
  · exact fun _ => Triple.pure fun _ h => h
  · intro body _
    have hDrain : Triple net (fun s : CursorStream × Connection => Mid server s.2)
        (Async.onSnd (drainServerError body)) (fun _ s => Done server s.2)
        (fun e s => Failed server e s.2) := Triple.onSnd fun _ => triple_drainServerError body
    apply Triple.bind hDrain
    intro serverErr
    refine Triple.modify_bind (fun s => Done server s.2) (fun _ h => h) ?_
    exact Triple.fail fun _ h => h.failed _

theorem steady_fetchBatch : Steady server fetchBatch := triple_fetchBatch.pre_mono fun _ h => h.good

theorem steady_popRow : Steady server popRow := by
  apply Triple.get_bind
  rintro ⟨stream, conn⟩ hDone
  dsimp only
  apply Triple.pre_mono _ (fun s (hs : s = (stream, conn)) => hs ▸ hDone)
  split
  · exact Triple.pure fun _ h => h
  · refine Triple.modify_bind (fun s => Done server s.2) (fun _ h => h) ?_
    exact Triple.pure fun _ h => h

theorem steady_next (fuel : Nat) : Steady server (next fuel) := by
  induction fuel with
  | zero => exact Triple.wait
  | succ fuel ih =>
      apply Triple.bind steady_popRow
      intro row
      cases row with
      | some row => exact Triple.pure fun _ h => h
      | none =>
          apply Triple.get_bind
          rintro ⟨stream, conn⟩ hDone
          dsimp only
          apply Triple.pre_mono _ (fun s (hs : s = (stream, conn)) => hs ▸ hDone)
          apply Triple.ite
          · exact fun _ => Triple.pure fun _ h => h
          · intro _
            apply Triple.bind steady_fetchBatch
            intro batch
            refine Triple.modify_bind (fun s => Done server s.2) (fun _ h => h) ?_
            apply Triple.get_bind
            rintro ⟨stream, conn⟩ hDone
            dsimp only
            apply Triple.pre_mono _ (fun s (hs : s = (stream, conn)) => hs ▸ hDone)
            apply Triple.ite
            · exact fun _ => ih
            · intro _
              refine Triple.modify_bind (fun s => Done server s.2) (fun _ h => h) ?_
              exact steady_popRow

theorem steady_closePortal : Steady server closePortal := by
  apply Triple.get_bind
  rintro ⟨stream, conn⟩ hDone
  dsimp only
  apply Triple.pre_mono _ (fun s (hs : s = (stream, conn)) => hs ▸ hDone)
  split
  · apply Triple.doIf
    · intro _
      apply Triple.bind_via (fun _ s => Done server s.2)
      · exact Triple.onSnd fun _ => (sound_execute "COMMIT").pre_mono fun _ h => h.good
      · exact fun _ => Triple.pure fun _ h => h
    · exact fun _ _ h => h
  · apply Triple.bind_via (fun _ s => Done server s.2)
    · exact Triple.onSnd fun _ => (sound_closePortal _ _).pre_mono fun _ h => h.good
    · exact fun _ => Triple.modify fun _ h => h

theorem steady_drainLoop (fuel rows : Nat) : Steady server (drainLoop fuel rows) := by
  induction rows with
  | zero => exact Triple.wait
  | succ rows ih =>
      apply Triple.bind (steady_next fuel)
      intro row
      cases row with
      | some row => exact ih
      | none => exact Triple.pure fun _ h => h

theorem steady_consume (fuel : Nat) : Steady server (consume fuel) := by
  apply Triple.bind (steady_drainLoop fuel fuel)
  intro _
  apply Triple.bind steady_closePortal
  intro _
  apply Triple.get_bind
  rintro ⟨stream, conn⟩ hDone
  dsimp only
  split
  · exact Triple.pure fun s hs => hs ▸ hDone
  · exact Triple.pure fun s hs => hs ▸ hDone

/-- Dropping a stream does not touch the wire or the state. -/
theorem drop_eq (stream : CursorStream) (conn : Connection) :
    drop stream conn = { conn with needsRecovery := !stream.isDone || conn.needsRecovery } := by
  simp only [drop]
  split
  case isTrue h => simp [h]
  case isFalse h => simp [h]

theorem done_drop {conn : Connection} (stream : CursorStream) (h : Done server conn) :
    Done server (drop stream conn) := by
  rw [drop_eq]
  exact h.setRecovery _

theorem failed_drop {conn : Connection} {e : PgError} (stream : CursorStream)
    (h : Failed server e conn) : Failed server e (drop stream conn) := by
  rw [drop_eq]
  exact h.setRecovery _

theorem good_drop {conn : Connection} (stream : CursorStream) (h : Good server conn) :
    Good server (drop stream conn) := by
  rw [drop_eq]
  exact good_setRecovery h _

end CursorStream

theorem Connection.sound_queryCursorStream {net : Network} {server : Server net} (sql : String)
    (params : List ToSql) (fetchSize : Int32) :
    Sound server (queryCursorStream sql params fetchSize) :=
  sound_map (sound_queryCursor sql params fetchSize) _

end PgClient
