import PgClient.Pairing.Loops
import PgClient.Connection.Request

/-!
What the parts of an operation leave alone: nothing but a send touches the history of
delivered messages, and nothing but a drop or a recovery touches the recovery flag.
-/

namespace PgClient

open Connection Async

namespace Connection

/-- A property that only looks at the recovery flag and at messages delivered already. -/
structure Inert (inv : Connection → Prop) : Prop where
  same : ∀ conn conn', conn'.transport.history = conn.transport.history →
    conn'.needsRecovery = conn.needsRecovery → inv conn → inv conn'
  sent : ∀ conn t, conn.transport.history <:+ t.history → inv conn →
    inv { conn with transport := t }

theorem inert_sent (history : List FrontendMessage) :
    Inert fun conn => history <:+ conn.transport.history where
  same := by
    intro conn conn' hHistory _ h
    rw [hHistory]
    exact h
  sent := fun _ _ hSent h => h.trans hSent

theorem inert_needsRecovery (flag : Bool) : Inert fun conn => conn.needsRecovery = flag where
  same := fun _ _ _ hFlag h => hFlag.trans h
  sent := fun _ _ _ h => h

section Owner

variable {L α : Type} {net : Network} {inv : Connection → Prop}

/-- What follows a loop that has left at an `ErrorResponse`. -/
theorem keeps_failServer {drain : Client PgServerError} (hDrain : Keeps net inv drain) :
    Keeps net (fun s : L × Connection => inv s.2)
      (onSnd drain >>= fun serverErr => (fail (.server serverErr) : Owner L α)) :=
  keeps_bind (keeps_onSnd fun _ => hDrain) fun _ => keeps_fail _

end Owner

section Loops

variable {L β : Type} {progress : β → Progress} {final : ConnectionState → ConnectionState}
  {body : L × Connection → BackendMessage → Drive.Step (L × Connection) (Except PgError β)}
  {net : Network}

/-- What a loop keeps: whatever reading, the end of a reply and the messages before it keep. -/
theorem keeps_orderly (inv : Connection → Prop) (h : Orderly progress final body)
    (hSame : ∀ conn conn', SameWire conn conn' → inv conn → inv conn')
    (hEnd : ∀ conn status conn', Ended final conn status conn' → inv conn → inv conn')
    (hInbox : ∀ conn inbox, inv conn → inv (conn.setInbox inbox)) :
    Keeps net (fun s => inv s.2) (messageLoop body) := by
  intro s hs
  have hDrive := Drive.drive_invariant (readStep body) (fun s => inv s.2) (fun _ s => inv s.2)
    (by
      intro s₁ entry s₂ hs hStep
      cases entry with
      | error e => cases hStep
      | ok message =>
          have hBody := h s₁ message
          rw [show body s₁ message = .next s₂ from hStep] at hBody
          exact hSame _ _ hBody hs)
    (by
      intro s₁ entry result s₂ hs hStep
      cases entry with
      | error e =>
          cases hStep
          exact hs
      | ok message =>
          have hBody := h s₁ message
          rw [show body s₁ message = .exit result s₂ from hStep] at hBody
          cases result with
          | error e => exact hSame _ _ hBody.1 hs
          | ok b =>
              simp only [OrderlyStep] at hBody
              cases hProgress : progress b with
              | inside =>
                  rw [hProgress] at hBody
                  exact hSame _ _ hBody hs
              | failed errorBody =>
                  rw [hProgress] at hBody
                  exact hSame _ _ hBody.2 hs
              | ended =>
                  rw [hProgress] at hBody
                  obtain ⟨status, _, hEnded⟩ := hBody
                  exact hEnd _ status _ hEnded hs)
    hs s.2.transport.inbox
  simp only [messageLoop]
  revert hDrive
  cases Drive.drive (readStep body) s s.2.transport.inbox with
  | waiting s' =>
      intro hDrive
      cases s.2.transport.ending <;> exact hInbox _ _ hDrive
  | done result s' rest => exact fun hDrive => hInbox _ _ hDrive

/-- A loop reads; it does not touch what else there is of the transport. -/
theorem messageLoop_ending (h : Orderly progress final body) (net : Network) (s : L × Connection) :
    (messageLoop body net s).2.2.transport.ending = s.2.transport.ending := by
  have hKeeps : Keeps net (fun s' => s'.2.transport.ending = s.2.transport.ending)
      (messageLoop body) := by
    apply keeps_orderly (fun conn => conn.transport.ending = s.2.transport.ending) h
    · intro conn conn' hSame hEnding
      rw [hSame.transport, hEnding]
    · intro conn status conn' hEnded hEnding
      rw [hEnded.transport, hEnding]
    · exact fun _ _ hEnding => hEnding
  exact hKeeps s rfl

/-- A loop that has left at a `ReadyForQuery` has set the state. -/
theorem messageLoop_state (h : Orderly progress final body) {s s' : L × Connection} {b : β}
    (hLoop : messageLoop body net s = (.ok b, s')) (hProgress : progress b = .ended) :
    ∃ state, s'.2.state = final state := by
  have hDrive := Drive.drive_invariant (readStep body) (fun _ => True)
    (fun result s => ∀ b, result = .ok b → progress b = .ended → ∃ state, s.2.state = final state)
    (fun _ _ _ _ _ => trivial)
    (by
      intro s₁ entry result s₂ _ hStep b hResult hProgress
      cases entry with
      | error e =>
          cases hStep
          cases hResult
      | ok message =>
          have hBody := h s₁ message
          rw [show body s₁ message = .exit result s₂ from hStep, hResult] at hBody
          simp only [OrderlyStep, hProgress] at hBody
          obtain ⟨status, _, hEnded⟩ := hBody
          exact ⟨_, hEnded.state⟩)
    (s := s) trivial s.2.transport.inbox
  simp only [messageLoop] at hLoop
  revert hLoop hDrive
  cases Drive.drive (readStep body) s s.2.transport.inbox with
  | waiting s₁ =>
      intro hLoop hDrive
      cases hEnding : s.2.transport.ending <;> simp [hEnding] at hLoop
  | done result s₁ rest =>
      intro hLoop hDrive
      cases result with
      | error e => simp at hLoop
      | ok b' =>
          simp only [Outcome.ofExcept_ok, Prod.mk.injEq, Outcome.ok.injEq] at hLoop
          obtain ⟨rfl, rfl⟩ := hLoop
          exact hDrive b' rfl hProgress

end Loops

variable {net : Network} {inv : Connection → Prop} (hInv : Inert inv)

include hInv

theorem Inert.sameWire {conn conn' : Connection} (hSame : SameWire conn conn') (h : inv conn) :
    inv conn' :=
  hInv.same conn conn' (by rw [hSame.transport]) hSame.needsRecovery h

/-- Reading is no send. -/
theorem Inert.setInbox {conn : Connection} (inbox : List Entry) (h : inv conn) :
    inv (conn.setInbox inbox) :=
  hInv.same conn _ rfl rfl h

theorem Inert.setState {conn : Connection} (state : ConnectionState) (h : inv conn) :
    inv (conn.setState state) :=
  hInv.same conn _ rfl rfl h

theorem keeps_messageLoop {L β : Type} {progress : β → Progress}
    {final : ConnectionState → ConnectionState}
    {body : L × Connection → BackendMessage → Drive.Step (L × Connection) (Except PgError β)}
    (h : Orderly progress final body) : Keeps net (fun s => inv s.2) (messageLoop body) :=
  keeps_orderly inv h (fun _ _ => hInv.sameWire)
    (fun _ _ _ hEnded => hInv.same _ _ (by rw [hEnded.transport]) hEnded.needsRecovery)
    fun _ => hInv.setInbox

theorem keeps_readUntilReady : Keeps net inv readUntilReady :=
  keeps_withLocal (keeps_messageLoop hInv orderly_readUntilReady)

theorem keeps_drainServerErrorOnly (body : ErrorBody) :
    Keeps net inv (drainServerErrorOnly body) := by
  refine keeps_bind (keeps_lift _) fun _ => ?_
  exact keeps_bind (keeps_readUntilReady hInv) fun _ => keeps_pure _

theorem keeps_drainServerError (body : ErrorBody) : Keeps net inv (drainServerError body) := by
  refine keeps_bind (keeps_lift _) fun _ => ?_
  refine keeps_bind (keeps_readUntilReady hInv) fun _ => ?_
  exact keeps_bind (keeps_modify fun _ h => hInv.setState _ h) fun _ => keeps_pure _

theorem keeps_writeAll (frame : Frame) : Keeps net inv (writeAll frame) := by
  intro conn h
  simp only [writeAll]
  split
  · cases hFlush : (conn.transport.push frame).flushWrite net with
    | error e => exact hInv.sent conn _ (List.suffix_refl _) h
    | ok t =>
        apply hInv.sent conn t _ h
        rw [Transport.flushWrite_flushed hFlush, Transport.flushed_history]
        exact List.suffix_append _ _
  · exact hInv.sent conn _ (List.suffix_refl _) h

theorem keeps_flush : Keeps net inv flush := by
  intro conn h
  simp only [flush]
  cases hFlush : conn.transport.flushWrite net with
  | error e => exact h
  | ok t =>
      have hSent : conn.transport.history <:+ t.history := by
        rw [Transport.flushWrite_flushed hFlush, Transport.flushed_history]
        exact List.suffix_append _ _
      dsimp only
      cases net.flushError t.history with
      | none => exact hInv.sent conn t hSent h
      | some e => exact hInv.sent conn t hSent h

theorem keeps_encodeAndWrite (message : FrontendMessage) :
    Keeps net inv (encodeAndWrite message) := by
  intro conn h
  rw [encodeAndWrite_apply]
  cases net.encode message with
  | error e => exact h
  | ok bytes => exact keeps_writeAll hInv _ conn h

theorem keeps_sendBatch (messages : List FrontendMessage) : Keeps net inv (sendBatch messages) := by
  refine keeps_bind ?_ fun _ => keeps_flush hInv
  induction messages with
  | nil => exact keeps_pure ()
  | cons message messages ih => exact keeps_bind (keeps_encodeAndWrite hInv message) fun _ => ih

theorem keeps_transition (state : ConnectionState) : Keeps net inv (transition state) := by
  intro conn h
  simp only [transition]
  split
  · exact hInv.setState _ h
  · exact h

theorem keeps_readExtendedQueryResult : Keeps net inv readExtendedQueryResult := by
  apply keeps_withLocal
  refine keeps_bind (keeps_messageLoop hInv orderly_extended) fun ending => ?_
  cases ending with
  | ready => exact keeps_bind keeps_get fun _ => keeps_pure _
  | serverError body => exact keeps_failServer (keeps_drainServerErrorOnly hInv body)

theorem keeps_readThenIdle : Keeps net inv readThenIdle := by
  refine keeps_bind (keeps_attempt (keeps_readExtendedQueryResult hInv)) fun result => ?_
  exact keeps_bind (keeps_modify fun _ h => hInv.setState _ h) fun _ => keeps_lift result

theorem keeps_readCopyStart {response : BackendMessage → Option CopyResponseBody}
    (hResponse : ∀ message body, response message = some body →
      message = .copyInResponse body ∨ message = .copyOutResponse body) (violation : String) :
    Keeps net inv (readCopyStart response violation) := by
  refine keeps_bind (keeps_withLocal (keeps_messageLoop hInv (orderly_copyStart hResponse)))
    fun start => ?_
  cases start with
  | response format columnFormats => exact keeps_pure _
  | serverError body => exact keeps_bind (keeps_drainServerError hInv body) fun _ => keeps_fail _
  | unexpected =>
      refine keeps_bind (keeps_readUntilReady hInv) fun _ => ?_
      exact keeps_bind (keeps_modify fun _ h => hInv.setState _ h) fun _ => keeps_fail _

end Connection

namespace RowStream

variable {net : Network} {inv : Connection → Prop} (hInv : Inert inv)

include hInv

theorem keeps_next : Keeps net (fun s => inv s.2) next := by
  refine keeps_bind keeps_get fun (stream, _) => ?_
  refine keeps_ite (keeps_pure _) ?_
  refine keeps_bind (keeps_messageLoop hInv orderly_next) fun event => ?_
  cases event with
  | row row => exact keeps_pure _
  | finished => exact keeps_pure _
  | serverError body =>
      refine keeps_bind (keeps_onSnd fun _ => keeps_drainServerError hInv body) fun _ => ?_
      exact keeps_bind (keeps_modify fun _ h => h) fun _ => keeps_fail _

theorem keeps_drain : Keeps net (fun s => inv s.2) drain := by
  have hLoop : ∀ fuel rows, Keeps net (fun s => inv s.2) (drainLoop fuel rows) := by
    intro fuel
    induction fuel with
    | zero => exact fun _ => keeps_wait
    | succ fuel ih =>
        intro rows
        refine keeps_bind (keeps_next hInv) fun row => ?_
        cases row with
        | some row => exact ih _
        | none => exact keeps_pure _
  exact fun s h => hLoop _ _ s h

omit hInv in
/-- Dropping a stream sends nothing. -/
theorem keeps_scope {α : Type} {history : List FrontendMessage} {stream : RowStream}
    {body : Owner RowStream α}
    (hBody : Keeps net (fun s => history <:+ s.2.transport.history) body) :
    Keeps net (fun conn => history <:+ conn.transport.history) (scope stream body) := by
  intro conn h
  have hEnd := hBody (stream, conn) h
  simp only [scope, drop]
  split <;> exact hEnd

end RowStream
end PgClient
