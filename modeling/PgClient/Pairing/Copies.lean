import PgClient.Pairing.Streams

/-!
COPY transfers in both directions.
-/

namespace PgClient

open Connection Async

namespace Connection

variable {net : Network} {server : Server net}

theorem triple_copyStart {state : ConnectionState} (hActive : state.isActive)
    {response : BackendMessage → Option CopyResponseBody}
    (hResponse : ∀ message body, response message = some body →
      message = .copyInResponse body ∨ message = .copyOutResponse body)
    (violation sql : String) :
    Triple net (Good server) (copyStart state response violation sql) (fun _ => Mid server)
      (Failed server) := by
  apply Triple.bind (triple_transition hActive)
  intro _
  apply Triple.bind (triple_query_message sql)
  intro _
  apply Triple.bind
  · apply Triple.withLocal
    exact ((orderly_copyStart hResponse).triple stable_busy).mono (fun _ h => h.2)
      (fun _ _ h => h) fun _ _ h => h.failed
  intro start
  cases start with
  | response format columnFormats => exact Triple.pure fun _ h => h
  | serverError body =>
      exact (triple_failServer' (triple_drainServerError body)).pre_mono fun _ h => h.1
  | unexpected =>
      apply Triple.bind ((triple_readUntilReady stable_busy).mono (fun _ h => h) (fun _ _ h => h)
        fun _ _ h => h.failed)
      intro _
      refine Triple.modify_bind (Done server)
        (fun _ h => ⟨rfl, h.boundary.settled, h.boundary.status⟩) ?_
      exact Triple.fail fun _ h => h.failed _

theorem triple_copyIn (sql : String) :
    Triple net (Good server) (copyIn sql) (fun _ => Mid server) (Failed server) := by
  apply Triple.bind (triple_copyStart rfl copyInResponse_eq _ _)
  exact fun _ => Triple.pure fun _ h => h

theorem triple_copyOut (sql : String) :
    Triple net (Good server) (copyOut sql) (fun _ => Mid server) (Failed server) := by
  apply Triple.bind (triple_copyStart rfl copyOutResponse_eq _ _)
  exact fun _ => Triple.pure fun _ h => h

/-- Closing the state leaves the wire as it is. -/
theorem good_setClosed {conn : Connection} (h : Good server conn) :
    Good server (conn.setState .closed) := by
  cases h with
  | inl hDead => exact .inl ⟨hDead.inbox, hDead.ending⟩
  | inr hBetween => exact good_of_active (by simp [setState]) hBetween.1

/-- A failure after which the transfer counts as done if the error is one of its reply. -/
structure TransferFailed {L : Type} (server : Server net) (done : L → Bool) (e : PgError)
    (s : L × Connection) : Prop where
  failed : Failed server e s.2
  done : e.endsReply → done s.1

theorem transferFailed_of_mid {L : Type} {done : L → Bool} {e : PgError} {s : L × Connection}
    (hError : e.endsReply = false) (h : Mid server s.2) : TransferFailed server done e s :=
  ⟨failed_of_good hError (Mid.good h), fun hReply => absurd hReply (by simp [hError])⟩

end Connection

namespace CopyIn

variable {net : Network} {server : Server net}

theorem triple_send {message : FrontendMessage} (hCopy : message.isCopy) :
    Triple net (Mid server) (send message) (fun _ => Mid server)
      (fun e conn => e.endsReply = false ∧ Mid server conn) := by
  intro conn h
  cases h with
  | inl hDead =>
      rw [send_eq_sendBatch]
      apply (triple_sendBatch_dead _ conn (framed_self hDead)).mono
      · rintro _ _ ⟨t, rfl, ht⟩
        exact .inl ht
      · rintro e _ ⟨hError, t, rfl, ht⟩
        exact ⟨hError, .inl ht⟩
  | inr hBusy =>
      apply (triple_send_copy hCopy conn (framed_self hBusy.2)).mono
      · rintro _ _ ⟨t, rfl, ht⟩
        exact .inr ⟨hBusy.1, ht.copying⟩
      · rintro e _ ⟨hError, t, rfl, ht⟩
        exact ⟨hError, .inr ⟨hBusy.1, ht⟩⟩

theorem triple_write (data : Bytes) :
    Triple net (fun s => Mid server s.2) (write data) (fun _ s => Mid server s.2)
      (fun e s => e.endsReply = false ∧ Mid server s.2) :=
  Triple.onSnd fun _ => triple_send rfl

theorem triple_finish :
    Triple net (fun s => Mid server s.2) finish (fun _ s => s.1.done ∧ Done server s.2)
      (TransferFailed server CopyIn.done) := by
  have hSend : Triple net (fun s : CopyIn × Connection => Mid server s.2)
      (Async.onSnd (send .copyDone)) (fun _ s => Mid server s.2)
      (TransferFailed server CopyIn.done) :=
    Triple.onSnd fun _ => (triple_send rfl).mono (fun _ h => h) (fun _ _ h => h)
      fun _ _ h => transferFailed_of_mid h.1 h.2
  have hLoop : Triple net (fun s : CopyIn × Connection => Mid server s.2)
      (Async.onSnd finishLoop)
      (fun result s => LoopPost server (Busy server) ReplyEnd.progress toIdle result.1 s.2)
      (TransferFailed server CopyIn.done) := by
    apply Triple.onSnd
    intro copy
    apply Triple.withLocal
    apply Triple.bind
    · exact (orderly_finish.triple stable_busy).mono (fun _ h => h.2) (fun _ _ h => h)
        fun _ _ h => transferFailed_of_mid h.error h.reading
    · intro ending
      apply Triple.get_bind
      rintro ⟨rows, conn⟩ h
      exact Triple.pure fun s hs => hs ▸ h
  apply Triple.bind hSend
  intro _
  apply Triple.bind hLoop
  intro (ending, rows)
  cases ending with
  | ready =>
      refine Triple.modify_bind (fun s => s.1.done ∧ Done server s.2) ?_ ?_
      · rintro s ⟨hBoundary, _, hState⟩
        exact ⟨rfl, hState, hBoundary⟩
      · exact Triple.pure fun _ h => h
  | serverError body =>
      have hDrain : Triple net (fun s : CopyIn × Connection => Mid server s.2)
          (Async.onSnd (drainServerError body)) (fun _ s => Done server s.2)
          (TransferFailed server CopyIn.done) :=
        Triple.onSnd fun _ => (triple_drainServerError_local body).mono (fun _ h => h)
          (fun _ _ h => h) fun _ _ h => transferFailed_of_mid h.1 h.2
      apply Triple.bind (hDrain.pre_mono fun _ h => h.1)
      intro serverErr
      refine Triple.modify_bind (fun s => s.1.done ∧ Done server s.2) (fun _ h => ⟨rfl, h⟩) ?_
      exact Triple.fail fun _ h => ⟨h.2.failed _, fun _ => h.1⟩

theorem triple_cancel (reason : String) :
    Triple net (fun s => Mid server s.2) (cancel reason) (fun _ s => s.1.done ∧ Done server s.2)
      (TransferFailed server CopyIn.done) := by
  have hSend : Triple net (fun s : CopyIn × Connection => Mid server s.2)
      (Async.onSnd (send (.copyFail reason))) (fun _ s => Mid server s.2)
      (TransferFailed server CopyIn.done) :=
    Triple.onSnd fun _ => (triple_send rfl).mono (fun _ h => h) (fun _ _ h => h)
      fun _ _ h => transferFailed_of_mid h.1 h.2
  have hRead : Triple net (fun s : CopyIn × Connection => Mid server s.2)
      (Async.onSnd readUntilReady) (fun _ s => Done server s.2)
      (TransferFailed server CopyIn.done) :=
    Triple.onSnd fun _ => (triple_readUntilReady stable_busy).mono (fun _ h => h) (fun _ _ h => h)
      fun _ _ h => transferFailed_of_mid h.error h.reading
  apply Triple.bind hSend
  intro _
  apply Triple.bind hRead
  intro _
  refine Triple.modify_bind (fun s => s.1.done ∧ Done server s.2) (fun _ h => ⟨rfl, h⟩) ?_
  exact Triple.modify fun _ h => ⟨h.1, rfl, h.2.boundary.settled, h.2.boundary.status⟩

/-- A transfer that is not done is dropped with its connection closed. -/
theorem drop_eq (net : Network) (copy : CopyIn) (conn : Connection) :
    drop net copy conn = if copy.done then conn else conn.setState .closed := by
  simp only [drop, cancelCopyInSync, trySyncWriteAndFlush]
  split
  · rfl
  · split <;> rfl

end CopyIn

namespace CopyOut

variable {net : Network} {server : Server net}

/-- What the end of the read loop says of its transfer. -/
def Event.Fits : Event → CopyOut → Prop
  | .finished, copy => copy.done
  | _, _ => True

theorem readBody_exit {s s' : CopyOut × Connection} {message : BackendMessage} {event : Event}
    (h : readBody s message = .exit (.ok event) s') : event.Fits s'.1 := by
  obtain ⟨copy, conn⟩ := s
  simp only [readBody, Connection.asyncFirst] at h
  cases hAsync : conn.handleAsyncMessage message with
  | some conn' =>
      simp only [hAsync] at h
      cases h
  | none =>
      simp only [hAsync] at h
      split at h <;> cases h <;> first | rfl | trivial

theorem triple_readNext :
    Triple net (fun s => Mid server s.2) readNext
      (fun chunk s => match chunk with
        | some _ => Mid server s.2
        | none => s.1.done ∧ Done server s.2)
      (TransferFailed server CopyOut.done) := by
  have hCopy : Triple net (fun _ : CopyOut × Connection => True) (messageLoop readBody)
      (fun event s => event.Fits s.1) (fun _ _ => True) :=
    triple_messageLoop_local (fun _ => True) Event.Fits (fun _ _ _ _ _ => trivial)
      fun _ _ _ _ _ hStep => readBody_exit hStep
  apply Triple.bind (((orderly_copyRead.triple stable_busy).and hCopy).mono
    (fun _ h => ⟨h, trivial⟩) (fun _ _ h => h)
    fun _ _ h => transferFailed_of_mid h.1.error h.1.reading)
  intro event
  cases event with
  | chunk data => exact Triple.pure fun _ h => h.1
  | finished =>
      apply Triple.pure
      rintro s ⟨⟨hBoundary, _, hState⟩, hDone⟩
      exact ⟨hDone, hState, hBoundary⟩
  | serverError body =>
      have hDrain : Triple net (fun s : CopyOut × Connection => Mid server s.2)
          (Async.onSnd (drainServerError body)) (fun _ s => Done server s.2)
          (TransferFailed server CopyOut.done) :=
        Triple.onSnd fun _ => (triple_drainServerError_local body).mono (fun _ h => h)
          (fun _ _ h => h) fun _ _ h => transferFailed_of_mid h.1 h.2
      apply Triple.bind (hDrain.pre_mono fun _ h => h.1.1)
      intro serverErr
      refine Triple.modify_bind (fun s => s.1.done ∧ Done server s.2) (fun _ h => ⟨rfl, h⟩) ?_
      exact Triple.fail fun _ h => ⟨h.2.failed _, fun _ => h.1⟩

theorem drop_eq (copy : CopyOut) (conn : Connection) :
    drop copy conn = if copy.done then conn else conn.setState .closed := rfl

end CopyOut

end PgClient
