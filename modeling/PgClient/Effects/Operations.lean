import PgClient.Effects.Loops
import PgClient.Pairing.Frame
import PgClient.Pairing.Session

/-!
Every call on a connection or on what borrows it: it keeps what reading and sending keep,
or fails with what is left of that after an error of the server.
-/

namespace PgClient

open Drive Async Connection

namespace Connection

variable {net : Network} {calm alarmed : Connection → Prop}

def Tamed {α : Type} (net : Network) (calm alarmed : Connection → Prop) (x : Client α) : Prop :=
  Triple net calm x (fun _ => calm) (fun _ => alarmed)

def TamedOwner {L α : Type} (net : Network) (calm alarmed : Connection → Prop) (x : Owner L α) :
    Prop :=
  Triple net (fun s => calm s.2) x (fun _ s => calm s.2) (fun _ s => alarmed s.2)

/-- What may start after an error of the server, and is calm again when it returns. -/
def Skips {α : Type} (net : Network) (calm alarmed : Connection → Prop) (x : Client α) : Prop :=
  Triple net alarmed x (fun _ => calm) (fun _ => alarmed)

section Parts

variable {L α β : Type}

theorem tamed_pure (a : α) : Tamed net calm alarmed (pure a) := Triple.pure fun _ h => h

theorem tamed_bind {x : Client α} {f : α → Client β} (hx : Tamed net calm alarmed x)
    (hf : ∀ a, Tamed net calm alarmed (f a)) : Tamed net calm alarmed (x >>= f) :=
  Triple.bind hx hf

theorem tamed_map {x : Client α} (f : α → β) (hx : Tamed net calm alarmed x) :
    Tamed net calm alarmed (x >>= fun a => pure (f a)) :=
  tamed_bind hx fun a => tamed_pure (f a)

theorem tamed_get : Tamed net calm alarmed (Async.get : Client Connection) :=
  Triple.get fun _ h => h

theorem tamed_env : Tamed net calm alarmed (Async.env : Client Network) := Triple.env fun _ h => h

theorem tamed_doIf {c : Prop} [Decidable c] {x : Client Unit} (hx : Tamed net calm alarmed x) :
    Tamed net calm alarmed (Async.doIf c x) :=
  Triple.doIf (fun _ => hx) fun _ _ h => h

theorem tamed_withLocal {l : L} {x : Owner L α} (hx : TamedOwner net calm alarmed x) :
    Tamed net calm alarmed (Async.withLocal l x) :=
  Triple.withLocal (hx.pre_mono fun _ h => h.2)

theorem owner_pure (a : α) : TamedOwner net calm alarmed (pure a : Owner L α) :=
  Triple.pure fun _ h => h

theorem owner_bind {x : Owner L α} {f : α → Owner L β} (hx : TamedOwner net calm alarmed x)
    (hf : ∀ a, TamedOwner net calm alarmed (f a)) : TamedOwner net calm alarmed (x >>= f) :=
  Triple.bind hx hf

theorem owner_get : TamedOwner net calm alarmed (Async.get : Owner L (L × Connection)) :=
  Triple.get fun _ h => h

theorem owner_wait : TamedOwner net calm alarmed (Async.wait : Owner L α) := Triple.wait

theorem owner_onSnd {x : Client α} (hx : Tamed net calm alarmed x) :
    TamedOwner net calm alarmed (Async.onSnd x : Owner L α) :=
  Triple.onSnd fun _ => hx

theorem owner_ite {c : Prop} [Decidable c] {x y : Owner L α} (hx : TamedOwner net calm alarmed x)
    (hy : TamedOwner net calm alarmed y) : TamedOwner net calm alarmed (if c then x else y) :=
  Triple.ite (fun _ => hx) fun _ => hy

theorem owner_doIf {c : Prop} [Decidable c] {x : Owner L Unit}
    (hx : TamedOwner net calm alarmed x) : TamedOwner net calm alarmed (Async.doIf c x) :=
  Triple.doIf (fun _ => hx) fun _ _ h => h

/-- A change of what the owner has besides the connection. -/
theorem owner_modify {f : L × Connection → L × Connection} (hf : ∀ s, (f s).2 = s.2) :
    TamedOwner net calm alarmed (Async.modify f) :=
  Triple.modify fun s h => by rw [hf s]; exact h

end Parts

section Wire

variable (hInv : Closed net calm alarmed)

include hInv

section Parts

variable {L α : Type}

theorem tamed_fail (e : PgError) : Tamed net calm alarmed (Async.fail e : Client α) :=
  Triple.fail hInv.alarm

theorem tamed_lift (result : Except PgError α) : Tamed net calm alarmed (Async.lift result) :=
  Triple.lift (fun _ _ _ h => h) fun _ _ => hInv.alarm

theorem owner_fail (e : PgError) : TamedOwner net calm alarmed (Async.fail e : Owner L α) :=
  Triple.fail fun _ h => hInv.alarm _ h

theorem owner_lift (result : Except PgError α) :
    TamedOwner net calm alarmed (Async.lift result : Owner L α) :=
  Triple.lift (fun _ _ _ h => h) fun _ _ _ h => hInv.alarm _ h

theorem tamed_of_skips {x : Client α} (h : Skips net calm alarmed x) : Tamed net calm alarmed x :=
  h.pre_mono hInv.alarm

theorem tamed_modify {f : Connection → Connection} (hf : ∀ conn, SameReports conn (f conn)) :
    Tamed net calm alarmed (Async.modify f) :=
  Triple.modify fun conn => hInv.frame conn _ (hf conn)

end Parts

theorem Closed.readNext {conn : Connection} (entry : Entry) {rest : List Entry}
    (hError : entry.isError = false) (h : calm (conn.setInbox (entry :: rest))) :
    calm (conn.setInbox rest) :=
  hInv.read (conn.setInbox (entry :: rest)) entry rest rfl hError h

theorem Closed.readNextAlarmed {conn : Connection} (entry : Entry) {rest : List Entry}
    (hReady : entry.isReady = false) (h : alarmed (conn.setInbox (entry :: rest))) :
    alarmed (conn.setInbox rest) :=
  hInv.readAlarmed (conn.setInbox (entry :: rest)) entry rest rfl hReady h

omit hInv in
theorem SameReports.setInbox {conn conn' : Connection} (h : SameReports conn conn')
    (rest : List Entry) : SameReports (conn.setInbox rest) (conn'.setInbox rest) :=
  ⟨by simp [Connection.setInbox, h.transport], h.transactionStatus, h.inTransaction⟩

/-- One message taken off the inbox, as a tame body takes it. -/
theorem Closed.took {conn conn' : Connection} {message : BackendMessage} {rest : List Entry}
    (hTook : Took conn message conn') (hError : message.isError = false)
    (h : calm (conn.setInbox (.ok message :: rest))) : calm (conn'.setInbox rest) := by
  cases hTook with
  | same hSame =>
      exact hInv.frame _ _ (hSame.setInbox rest) (hInv.readNext (.ok message) hError h)
  | ready status hMessage hTransport hStatus hFlag =>
      subst hMessage
      exact hInv.ready (conn.setInbox (.ok (.readyForQuery status) :: rest)) _ status rest rfl
        (by simp [setInbox, hTransport]) hStatus hFlag h

/-- An error of the server, as a tame body leaves at it. -/
theorem Closed.tookAny {conn conn' : Connection} {message : BackendMessage} {rest : List Entry}
    (hTook : Took conn message conn') (h : calm (conn.setInbox (.ok message :: rest))) :
    alarmed (conn'.setInbox rest) := by
  cases hError : message.isError with
  | false => exact hInv.alarm _ (hInv.took hTook hError h)
  | true =>
      have hReady : Entry.isReady (.ok message) = false := by
        cases message with
        | errorResponse body => rfl
        | _ => cases hError
      cases hTook with
      | same hSame =>
          exact hInv.frameAlarmed _ _ (hSame.setInbox rest)
            (hInv.readNextAlarmed (.ok message) hReady (hInv.alarm _ h))
      | ready status hMessage =>
          subst hMessage
          cases hReady

/-- What a tame loop keeps over the messages at hand. -/
theorem drive_tame {L β : Type} {progress : β → Progress}
    {body : L × Connection → BackendMessage → Step (L × Connection) (Except PgError β)}
    (hTame : Tame progress body) (entries : List Entry) (s : L × Connection)
    (h : calm (s.2.setInbox entries)) :
    match drive (readStep body) s entries with
    | .waiting s' => calm (s'.2.setInbox [])
    | .done (.ok b) s' rest =>
        match progress b with
        | .failed _ => alarmed (s'.2.setInbox rest)
        | .inside | .ended => calm (s'.2.setInbox rest)
    | .done (.error _) s' rest => alarmed (s'.2.setInbox rest) := by
  induction entries generalizing s with
  | nil => exact h
  | cons entry entries ih =>
      cases entry with
      | error e => exact hInv.readNextAlarmed (.error e) rfl (hInv.alarm _ h)
      | ok message =>
          have hStep := hTame s message
          cases hBody : body s message with
          | next s' =>
              rw [hBody] at hStep
              have hNext : readStep body s (.ok message) = .next s' := hBody
              rw [drive_cons_next _ entries hNext]
              exact ih s' (hInv.took hStep.1 hStep.2 h)
          | exit result s' =>
              rw [hBody] at hStep
              have hExit : readStep body s (.ok message) = .exit result s' := hBody
              rw [drive_cons_exit _ entries hExit]
              cases result with
              | error e => exact hInv.tookAny hStep h
              | ok b =>
                  obtain ⟨hTook, hProgress⟩ := hStep
                  dsimp only
                  revert hProgress
                  cases progress b with
                  | failed errorBody => exact fun _ => hInv.tookAny hTook h
                  | inside => exact fun hError => hInv.took hTook hError h
                  | ended => exact fun hError => hInv.took hTook hError h

theorem triple_tameLoop {L β : Type} {progress : β → Progress}
    {body : L × Connection → BackendMessage → Step (L × Connection) (Except PgError β)}
    (hTame : Tame progress body) :
    Triple net (fun s => calm s.2) (messageLoop body)
      (fun b s => match progress b with
        | .failed _ => alarmed s.2
        | .inside | .ended => calm s.2)
      (fun _ s => alarmed s.2) := by
  intro s h
  have hEnd := drive_tame hInv hTame s.2.transport.inbox s h
  simp only [messageLoop]
  revert hEnd
  cases drive (readStep body) s s.2.transport.inbox with
  | waiting s' =>
      intro hEnd
      cases s.2.transport.ending with
      | none => trivial
      | some e => exact hInv.alarm _ hEnd
  | done result s' rest =>
      cases result with
      | ok b => exact id
      | error e => exact id

/-- A tame loop that waits has met no error of the server. -/
theorem calm_of_pending {L β : Type} {progress : β → Progress}
    {body : L × Connection → BackendMessage → Step (L × Connection) (Except PgError β)}
    (hTame : Tame progress body) {s s' : L × Connection} (h : calm s.2)
    (hPending : messageLoop body net s = (.pending, s')) : calm s'.2 := by
  have hEnd := drive_tame hInv hTame s.2.transport.inbox s h
  simp only [messageLoop] at hPending
  revert hEnd hPending
  cases drive (readStep body) s s.2.transport.inbox with
  | waiting s₁ =>
      intro hPending hEnd
      cases hEnding : s.2.transport.ending with
      | none =>
          rw [hEnding] at hPending
          cases hPending
          exact hEnd
      | some e =>
          rw [hEnding] at hPending
          cases hPending
  | done result s₁ rest =>
      intro hPending _
      cases result <;> cases hPending

/-- A tame loop, and what is done then. -/
theorem owner_loopThen {L α β : Type} {progress : β → Progress}
    {body : L × Connection → BackendMessage → Step (L × Connection) (Except PgError β)}
    (hTame : Tame progress body) {k : β → Owner L α}
    (hCalm : ∀ b, (∀ errorBody, progress b ≠ .failed errorBody) → TamedOwner net calm alarmed (k b))
    (hError : ∀ b errorBody, progress b = .failed errorBody →
      Triple net (fun s => alarmed s.2) (k b) (fun _ s => calm s.2) (fun _ s => alarmed s.2)) :
    TamedOwner net calm alarmed (messageLoop body >>= k) := by
  apply Triple.bind (triple_tameLoop hInv hTame)
  intro b
  cases hProgress : progress b with
  | failed errorBody => exact hError b errorBody hProgress
  | inside => exact hCalm b (by simp [hProgress])
  | ended => exact hCalm b (by simp [hProgress])

theorem tamed_setState (state : ConnectionState) :
    Tamed net calm alarmed (Async.modify fun conn => conn.setState state) :=
  tamed_modify hInv fun _ => ⟨rfl, rfl, rfl⟩

theorem tamed_writeAll (frame : Frame) : Tamed net calm alarmed (writeAll frame) := by
  intro conn h
  have hPush := hInv.push conn frame h
  simp only [writeAll]
  split
  · cases hFlush : (conn.transport.push frame).flushWrite net with
    | error e => exact hInv.alarm _ hPush
    | ok t => exact hInv.flush { conn with transport := conn.transport.push frame } t hFlush hPush
  · exact hPush

theorem tamed_flush : Tamed net calm alarmed flush := by
  intro conn h
  simp only [flush]
  cases hFlush : conn.transport.flushWrite net with
  | error e => exact hInv.alarm _ h
  | ok t =>
      have hSent := hInv.flush conn t hFlush h
      dsimp only
      cases net.flushError t.history with
      | none => exact hSent
      | some e => exact hInv.alarm _ hSent

theorem tamed_encodeAndWrite (message : FrontendMessage) :
    Tamed net calm alarmed (encodeAndWrite message) := by
  intro conn h
  rw [encodeAndWrite_apply]
  cases net.encode message with
  | error e => exact hInv.alarm _ h
  | ok bytes => exact tamed_writeAll hInv _ conn h

theorem tamed_sendBatch (messages : List FrontendMessage) :
    Tamed net calm alarmed (sendBatch messages) := by
  refine tamed_bind ?_ fun _ => tamed_flush hInv
  induction messages with
  | nil => exact tamed_pure ()
  | cons message messages ih => exact tamed_bind (tamed_encodeAndWrite hInv message) fun _ => ih

theorem tamed_send (message : FrontendMessage) : Tamed net calm alarmed (send message) := by
  rw [send_eq_sendBatch]
  exact tamed_sendBatch hInv _

theorem tamed_transition (state : ConnectionState) :
    Tamed net calm alarmed (transition state) := by
  intro conn h
  simp only [transition]
  split
  · exact hInv.frame conn _ ⟨rfl, rfl, rfl⟩ h
  · exact hInv.alarm _ h

/-- The loop that skips a reply is the one that takes errors of the server like anything
else, and the one that updates the flag. -/
theorem skips_readUntilReady : Skips net calm alarmed readUntilReady := by
  have hDrive : ∀ entries s, alarmed (s.2.setInbox entries) →
      match drive (readStep readUntilReadyBody) s entries with
      | .waiting s' => alarmed (s'.2.setInbox [])
      | .done (.ok _) s' rest => calm (s'.2.setInbox rest)
      | .done (.error _) s' rest => alarmed (s'.2.setInbox rest) := by
    intro entries
    induction entries with
    | nil => exact fun s h => h
    | cons entry entries ih =>
        intro (value, conn) h
        cases entry with
        | error e => exact hInv.readNextAlarmed (.error e) rfl h
        | ok message =>
            cases hAsync : conn.handleAsyncMessage message with
            | some conn' =>
                have hNext : readStep readUntilReadyBody (value, conn) (.ok message) =
                    .next (value, conn') := by
                  simp [readStep, readUntilReadyBody, Connection.asyncFirst, hAsync]
                have hSame : SameReports conn conn' := .of_core (core_of_handleAsyncMessage hAsync)
                have hReady : Entry.isReady (.ok message) = false := by
                  cases message with
                  | readyForQuery status => cases hAsync
                  | _ => rfl
                rw [drive_cons_next _ entries hNext]
                exact ih _ (hInv.frameAlarmed _ _ (hSame.setInbox entries)
                  (hInv.readNextAlarmed (.ok message) hReady h))
            | none =>
                cases hReady : message.isReady with
                | true =>
                    cases message with
                    | readyForQuery status =>
                        have hExit : readStep readUntilReadyBody (value, conn)
                            (.ok (.readyForQuery status)) = .exit (.ok ()) (value,
                              { conn.setReady status with
                                sessionState := (conn.setReady status).sessionState.setInTransaction
                                  ((conn.setReady status).transactionStatus ≠ .idle)
                                state := .idle }) := by
                          simp [readStep, readUntilReadyBody, Connection.asyncFirst, hAsync]
                        rw [drive_cons_exit _ entries hExit]
                        exact hInv.skipped (conn.setInbox (.ok (.readyForQuery status) :: entries))
                          _ status entries rfl rfl rfl rfl h
                    | _ => cases hReady
                | false =>
                    have hNext : readStep readUntilReadyBody (value, conn) (.ok message) =
                        .next (value, conn) := by
                      cases message with
                      | readyForQuery status => cases hReady
                      | _ => simp_all [readStep, readUntilReadyBody, Connection.asyncFirst]
                    rw [drive_cons_next _ entries hNext]
                    exact ih _ (hInv.readNextAlarmed (.ok message) hReady h)
  apply Triple.withLocal
  intro s h
  have hEnd := hDrive s.2.transport.inbox s h.2
  simp only [messageLoop]
  revert hEnd
  cases drive (readStep readUntilReadyBody) s s.2.transport.inbox with
  | waiting s' =>
      intro hEnd
      cases s.2.transport.ending with
      | none => trivial
      | some e => exact hEnd
  | done result s' rest =>
      cases result with
      | ok value => exact id
      | error e => exact id

theorem skips_drainServerErrorOnly (body : ErrorBody) :
    Skips net calm alarmed (drainServerErrorOnly body) := by
  apply Triple.bind_via (fun _ => alarmed) (Triple.lift (fun _ _ _ h => h) fun _ _ _ h => h)
  intro serverErr
  exact Triple.bind (skips_readUntilReady hInv) fun _ => Triple.pure fun _ h => h

theorem skips_drainServerError (body : ErrorBody) :
    Skips net calm alarmed (drainServerError body) := by
  apply Triple.bind_via (fun _ => alarmed) (Triple.lift (fun _ _ _ h => h) fun _ _ _ h => h)
  intro serverErr
  apply Triple.bind (skips_readUntilReady hInv)
  intro _
  exact Triple.bind (tamed_setState hInv .idle) fun _ => Triple.pure fun _ h => h

/-- What follows a loop that has left at an `ErrorResponse`. -/
theorem skips_failServer {α : Type} {drain : Client PgServerError}
    (hDrain : Skips net calm alarmed drain) :
    Skips net calm alarmed
      (drain >>= fun serverErr => (Async.fail (.server serverErr) : Client α)) :=
  Triple.bind hDrain fun _ => Triple.fail hInv.alarm

theorem owner_failServer {L α : Type} {drain : Client PgServerError}
    (hDrain : Skips net calm alarmed drain) (f : L × Connection → L × Connection)
    (hf : ∀ s, (f s).2 = s.2) :
    Triple net (fun s => alarmed s.2) (Async.onSnd drain >>= fun serverErr =>
      Async.modify f >>= fun _ => (Async.fail (.server serverErr) : Owner L α))
      (fun _ s => calm s.2) (fun _ s => alarmed s.2) := by
  have hSnd : Triple net (fun s : L × Connection => alarmed s.2) (Async.onSnd drain)
      (fun _ s => calm s.2) (fun _ s => alarmed s.2) := Triple.onSnd fun _ => hDrain
  apply Triple.bind hSnd
  intro serverErr
  exact Triple.bind (owner_modify hf) fun _ => Triple.fail fun _ h => hInv.alarm _ h

/-- A loop that reads to the end of a reply, and what is done then. -/
theorem owner_readReply {L α : Type}
    {body : L × Connection → BackendMessage → Step (L × Connection) (Except PgError ReplyEnd)}
    (hTame : Tame ReplyEnd.progress body) {k : ReplyEnd → Owner L α}
    (hReady : TamedOwner net calm alarmed (k .ready))
    (hError : ∀ errorBody, Triple net (fun s => alarmed s.2) (k (.serverError errorBody))
      (fun _ s => calm s.2) (fun _ s => alarmed s.2)) :
    TamedOwner net calm alarmed (messageLoop body >>= k) := by
  apply owner_loopThen hInv hTame
  · intro ending hProgress
    cases ending with
    | ready => exact hReady
    | serverError errorBody => exact absurd rfl (hProgress errorBody)
  · intro ending errorBody hProgress
    cases ending with
    | ready => cases hProgress
    | serverError errorBody => exact hError _

theorem tamed_recover : Tamed net calm alarmed recover := by
  refine tamed_bind tamed_get fun conn => tamed_doIf ?_
  refine tamed_bind (tamed_of_skips hInv (skips_readUntilReady hInv)) fun _ => ?_
  exact tamed_modify hInv fun _ => ⟨rfl, rfl, rfl⟩

theorem tamed_queryStream (sql : String) : Tamed net calm alarmed (queryStream sql) := by
  refine tamed_bind (tamed_recover hInv) fun _ => ?_
  refine tamed_bind (tamed_transition hInv .streaming) fun _ => ?_
  exact tamed_map _ (tamed_send hInv _)

theorem owner_next : TamedOwner net calm alarmed RowStream.next := by
  refine owner_bind owner_get fun (stream, _) => owner_ite (owner_pure none) ?_
  apply owner_loopThen hInv tame_next
  · intro event hProgress
    cases event with
    | row row => exact owner_pure _
    | finished => exact owner_pure _
    | serverError body => exact absurd rfl (hProgress body)
  · intro event errorBody hProgress
    cases event with
    | serverError body =>
        exact owner_failServer hInv (skips_drainServerError hInv body) _ fun _ => rfl
    | _ => cases hProgress

theorem owner_drain : TamedOwner net calm alarmed RowStream.drain := by
  have hLoop : ∀ fuel rows, TamedOwner net calm alarmed (RowStream.drainLoop fuel rows) := by
    intro fuel
    induction fuel with
    | zero => exact fun _ => owner_wait
    | succ fuel ih =>
        intro rows
        refine owner_bind (owner_next hInv) fun row => ?_
        cases row with
        | some row => exact ih _
        | none => exact owner_pure _
  exact fun s h => hLoop _ _ s h

theorem owner_consume : TamedOwner net calm alarmed RowStream.consume := by
  refine owner_bind (owner_drain hInv) fun _ => ?_
  refine owner_bind owner_get fun (stream, _) => ?_
  dsimp only
  cases stream.state <;> exact owner_pure _

theorem tamed_scope {α : Type} {stream : RowStream} {body : Owner RowStream α}
    (hBody : TamedOwner net calm alarmed body) : Tamed net calm alarmed (stream.scope body) := by
  intro conn h
  have hEnd := hBody (stream, conn) h
  simp only [RowStream.scope, RowStream.drop_eq]
  revert hEnd
  cases body net (stream, conn) with
  | mk outcome s =>
      cases outcome with
      | ok a =>
          intro hEnd
          exact hInv.frame s.2 _ ⟨rfl, rfl, rfl⟩ hEnd
      | err e =>
          intro hEnd
          exact hInv.frameAlarmed s.2 _ ⟨rfl, rfl, rfl⟩ hEnd
      | pending => exact fun _ => trivial

theorem tamed_query (sql : String) : Tamed net calm alarmed (query sql) := by
  refine tamed_bind (tamed_queryStream hInv sql) fun stream => tamed_scope hInv ?_
  refine owner_bind (owner_drain hInv) fun rows => ?_
  exact owner_bind owner_get fun _ => owner_pure _

theorem tamed_execute (sql : String) : Tamed net calm alarmed (execute sql) :=
  tamed_map _ (tamed_query hInv sql)

theorem owner_eachLoop (f : List Row → Row → Except PgError Unit) (fuel : Nat) (seen : List Row) :
    TamedOwner net calm alarmed (eachLoop f fuel seen) := by
  induction fuel generalizing seen with
  | zero => exact owner_wait
  | succ fuel ih =>
      refine owner_bind (owner_next hInv) fun row => ?_
      cases row with
      | some row => exact owner_bind (owner_lift hInv _) fun _ => ih _
      | none => exact owner_pure _

/-- What `query_each` does with its stream. -/
theorem tamed_each (f : List Row → Row → Except PgError Unit) (stream : RowStream) :
    Tamed net calm alarmed (stream.scope do
      let (_, conn) ← .get
      eachLoop f (conn.transport.inbox.length + 1) []
      let (stream, _) ← .get
      match stream.commandTag with
      | some tag => return tag
      | none => .fail (.invalidState "stream ended without command tag")) := by
  apply tamed_scope hInv
  refine owner_bind owner_get fun (_, conn) => ?_
  refine owner_bind (owner_eachLoop hInv f _ _) fun _ => ?_
  refine owner_bind owner_get fun (stream, _) => ?_
  dsimp only
  cases stream.commandTag with
  | some tag => exact owner_pure _
  | none => exact owner_fail hInv _

theorem tamed_queryEach (sql : String) (f : List Row → Row → Except PgError Unit) :
    Tamed net calm alarmed (queryEach sql f) :=
  tamed_bind (tamed_queryStream hInv sql) fun stream => tamed_each hInv f stream

theorem tamed_batchExecute (sql : String) : Tamed net calm alarmed (batchExecute sql) := by
  refine tamed_bind (tamed_transition hInv _) fun _ => ?_
  refine tamed_bind (tamed_send hInv _) fun _ => tamed_withLocal ?_
  refine owner_readReply hInv tame_batch (owner_bind owner_get fun _ => owner_pure _)
    fun body => ?_
  exact owner_failServer hInv (skips_drainServerError hInv body) id fun _ => rfl

theorem tamed_readExtendedQueryResult : Tamed net calm alarmed readExtendedQueryResult := by
  refine tamed_withLocal (owner_readReply hInv tame_extended
    (owner_bind owner_get fun _ => owner_pure _) fun body => ?_)
  exact owner_failServer hInv (skips_drainServerErrorOnly hInv body) id fun _ => rfl

theorem tamed_readThenIdle : Tamed net calm alarmed readThenIdle := by
  apply Triple.bind (tamed_readExtendedQueryResult hInv).attempt
  intro result
  cases result with
  | ok value => exact Triple.bind (tamed_setState hInv .idle) fun _ => Triple.pure fun _ h => h
  | error e =>
      refine Triple.modify_bind alarmed ?_ (Triple.fail fun _ h => h)
      exact fun conn h => hInv.frameAlarmed conn _ ⟨rfl, rfl, rfl⟩ h

theorem tamed_queryParams (sql : String) (params : List ToSql) :
    Tamed net calm alarmed (queryParams sql params) := by
  refine tamed_bind (tamed_transition hInv _) fun _ => ?_
  refine tamed_bind (tamed_lift hInv _) fun values => ?_
  exact tamed_bind (tamed_sendBatch hInv _) fun _ => tamed_readThenIdle hInv

theorem tamed_queryPrepared (stmt : PreparedStatement) (params : List ToSql) :
    Tamed net calm alarmed (queryPrepared stmt params) := by
  refine tamed_bind (tamed_transition hInv _) fun _ => ?_
  refine tamed_bind (tamed_lift hInv _) fun values => ?_
  exact tamed_bind (tamed_sendBatch hInv _) fun _ => tamed_readThenIdle hInv

/-- A tame loop of a client without data of its own, and what is done then. -/
theorem tamed_loopThen {α β : Type} {progress : β → Progress}
    {body : Unit × Connection → BackendMessage → Step (Unit × Connection) (Except PgError β)}
    (hTame : Tame progress body) {k : β → Client α}
    (hCalm : ∀ b, (∀ errorBody, progress b ≠ .failed errorBody) → Tamed net calm alarmed (k b))
    (hError : ∀ b errorBody, progress b = .failed errorBody → Skips net calm alarmed (k b)) :
    Tamed net calm alarmed (Async.withLocal () (messageLoop body) >>= k) := by
  have hLoop : Triple net calm (Async.withLocal () (messageLoop body))
      (fun b conn => match progress b with
        | .failed _ => alarmed conn
        | .inside | .ended => calm conn)
      (fun _ => alarmed) :=
    Triple.withLocal ((triple_tameLoop hInv hTame).pre_mono fun _ h => h.2)
  apply Triple.bind hLoop
  intro b
  cases hProgress : progress b with
  | failed errorBody => exact hError b errorBody hProgress
  | inside => exact hCalm b (by simp [hProgress])
  | ended => exact hCalm b (by simp [hProgress])

theorem tamed_readPreamble : Tamed net calm alarmed readPreamble := by
  apply tamed_loopThen hInv tame_preamble
  · intro preamble hProgress
    cases preamble with
    | columns columns => exact tamed_pure _
    | serverError body => exact absurd rfl (hProgress body)
  · intro preamble errorBody hProgress
    cases preamble with
    | columns columns => cases hProgress
    | serverError body => exact skips_failServer hInv (skips_drainServerError hInv body)

theorem tamed_queryParamsStream (sql : String) (params : List ToSql) :
    Tamed net calm alarmed (queryParamsStream sql params) := by
  refine tamed_bind (tamed_recover hInv) fun _ => ?_
  refine tamed_bind (tamed_transition hInv _) fun _ => ?_
  refine tamed_bind (tamed_lift hInv _) fun values => ?_
  exact tamed_bind (tamed_sendBatch hInv _) fun _ => tamed_readPreamble hInv

theorem tamed_queryPreparedStream (stmt : PreparedStatement) (params : List ToSql) :
    Tamed net calm alarmed (queryPreparedStream stmt params) := by
  refine tamed_bind (tamed_recover hInv) fun _ => ?_
  refine tamed_bind (tamed_transition hInv _) fun _ => ?_
  refine tamed_bind (tamed_lift hInv _) fun values => ?_
  exact tamed_map _ (tamed_sendBatch hInv _)

theorem tamed_prepare (sql : String) : Tamed net calm alarmed (prepare sql) := by
  refine tamed_bind (tamed_transition hInv _) fun _ => ?_
  refine tamed_bind ?_ fun name => ?_
  · refine tamed_bind (tamed_modify hInv fun _ => ⟨rfl, rfl, rfl⟩) fun _ => ?_
    exact tamed_bind tamed_get fun _ => tamed_pure _
  refine tamed_bind (tamed_sendBatch hInv _) fun _ => ?_
  refine tamed_bind tamed_env fun net' => ?_
  refine tamed_withLocal (owner_readReply hInv (tame_prepare _)
    (owner_bind owner_get fun _ => owner_pure _) fun body => ?_)
  exact owner_failServer hInv (skips_drainServerErrorOnly hInv body) id fun _ => rfl

/-- The loop that waits for the end of a reply, and what is done then. -/
theorem tamed_readComplete {α : Type} {k : ReplyEnd → Client α}
    (hReady : Tamed net calm alarmed (k .ready))
    (hError : ∀ body, Skips net calm alarmed (k (.serverError body))) :
    Tamed net calm alarmed (Async.withLocal () (messageLoop completeBody) >>= k) := by
  apply tamed_loopThen hInv tame_complete
  · intro ending hProgress
    cases ending with
    | ready => exact hReady
    | serverError body => exact absurd rfl (hProgress body)
  · intro ending errorBody hProgress
    cases ending with
    | ready => cases hProgress
    | serverError body => exact hError body

theorem tamed_closeStatement (stmt : PreparedStatement) :
    Tamed net calm alarmed (closeStatement stmt) := by
  refine tamed_bind (tamed_transition hInv _) fun _ => ?_
  refine tamed_bind (tamed_sendBatch hInv _) fun _ => ?_
  refine tamed_readComplete hInv (tamed_pure ()) fun body => ?_
  exact skips_failServer hInv (skips_drainServerErrorOnly hInv body)

theorem tamed_pipeline (pipeline : Pipeline) : Tamed net calm alarmed pipeline.finish := by
  refine tamed_bind (tamed_transition hInv _) fun _ => ?_
  refine tamed_bind (tamed_sendBatch hInv _) fun _ => ?_
  refine tamed_withLocal (owner_readReply hInv tame_pipeline
    (owner_bind owner_get fun _ => owner_pure _) fun body => ?_)
  exact owner_failServer hInv (skips_drainServerError hInv body) id fun _ => rfl

/-- What opens a cursor once its transaction has begun. -/
theorem tamed_openPortal (sql : String) (params : List ToSql) (fetchSize : Int32)
    (ownsTransaction : Bool) :
    Tamed net calm alarmed (do
      transition .activeExtendedQuery
      let paramValues ← .lift (encodeParamsText params)
      let conn ← .get
      let portalName := "__pg_portal_" ++ toString conn.statementCounter.toNat
      .modify fun conn => { conn with statementCounter := conn.statementCounter + 1 }
      sendBatch (openBatch sql portalName paramValues ++ [.sync])
      .withLocal none do
        match ← messageLoop cursorOpenBody with
        | .ready =>
            let (columns, _) ← .get
            return ({ portalName, columns := columns.getD [], fetchSize, done := false,
                      ownsTransaction } : Cursor)
        | .serverError body =>
            let serverErr ← .onSnd (drainServerError body)
            .fail (.server serverErr)) := by
  refine tamed_bind (tamed_transition hInv _) fun _ => ?_
  refine tamed_bind (tamed_lift hInv _) fun values => ?_
  refine tamed_bind tamed_get fun conn => ?_
  refine tamed_bind (tamed_modify hInv fun _ => ⟨rfl, rfl, rfl⟩) fun _ => ?_
  refine tamed_bind (tamed_sendBatch hInv _) fun _ => ?_
  refine tamed_withLocal (owner_readReply hInv tame_cursorOpen
    (owner_bind owner_get fun _ => owner_pure _) fun body => ?_)
  exact owner_failServer hInv (skips_drainServerError hInv body) id fun _ => rfl

theorem tamed_queryCursor (sql : String) (params : List ToSql) (fetchSize : Int32) :
    Tamed net calm alarmed (queryCursor sql params fetchSize) := by
  refine tamed_bind tamed_get fun conn => ?_
  refine tamed_bind (tamed_doIf (tamed_map _ (tamed_query hInv _))) fun _ => ?_
  exact tamed_openPortal hInv sql params fetchSize _

theorem tamed_closePortal (portalName : String) (ownsTransaction : Bool) :
    Tamed net calm alarmed (closePortal portalName ownsTransaction) := by
  refine tamed_bind (tamed_transition hInv _) fun _ => ?_
  refine tamed_bind (tamed_sendBatch hInv _) fun _ => ?_
  refine tamed_readComplete hInv (tamed_doIf (tamed_map _ (tamed_execute hInv _))) fun body => ?_
  exact skips_failServer hInv (skips_drainServerError hInv body)

/-- A read loop of an owner with its rows as one more local variable. -/
theorem owner_readBatch {L μ α : Type} {m : μ}
    {body : (L × μ) × Connection → BackendMessage →
      Step ((L × μ) × Connection) (Except PgError ReplyEnd)}
    (hTame : Tame ReplyEnd.progress body) {k : ReplyEnd × μ → Owner L α}
    (hReady : ∀ m, TamedOwner net calm alarmed (k (.ready, m)))
    (hError : ∀ errorBody m, Triple net (fun s => alarmed s.2) (k (.serverError errorBody, m))
      (fun _ s => calm s.2) (fun _ s => alarmed s.2)) :
    TamedOwner net calm alarmed (Async.withExtra m (messageLoop body) >>= k) := by
  have hLoop : Triple net (fun s => calm s.2) (Async.withExtra m (messageLoop body))
      (fun result s => match result.1.progress with
        | .failed _ => alarmed s.2
        | .inside | .ended => calm s.2)
      (fun _ s => alarmed s.2) :=
    Triple.withExtra (triple_tameLoop hInv hTame)
  apply Triple.bind hLoop
  intro (ending, m)
  cases ending with
  | ready => exact hReady m
  | serverError errorBody => exact hError errorBody m

theorem owner_fetchNext : TamedOwner net calm alarmed Cursor.fetchNext := by
  refine owner_bind owner_get fun (cursor, _) => owner_ite (owner_pure []) ?_
  refine owner_bind (owner_onSnd (tamed_transition hInv _)) fun _ => ?_
  refine owner_bind (owner_onSnd (tamed_sendBatch hInv _)) fun _ => ?_
  apply owner_readBatch hInv tame_fetch
  · exact fun _ => owner_pure _
  · exact fun body _ => owner_failServer hInv (skips_drainServerError hInv body) id fun _ => rfl

theorem owner_fetchBatch : TamedOwner net calm alarmed CursorStream.fetchBatch := by
  refine owner_bind owner_get fun (stream, _) => ?_
  refine owner_bind (owner_onSnd (tamed_transition hInv _)) fun _ => ?_
  refine owner_bind (owner_onSnd (tamed_sendBatch hInv _)) fun _ => ?_
  apply owner_readBatch hInv tame_cursorBatch
  · exact fun _ => owner_pure _
  · exact fun body _ => owner_failServer hInv (skips_drainServerError hInv body) _ fun _ => rfl

omit hInv in
theorem owner_popRow : TamedOwner net calm alarmed CursorStream.popRow := by
  refine owner_bind owner_get fun (stream, _) => ?_
  dsimp only
  cases stream.bufferedRows with
  | nil => exact owner_pure _
  | cons row rows => exact owner_bind (owner_modify fun _ => rfl) fun _ => owner_pure _

theorem owner_cursorNext (fuel : Nat) : TamedOwner net calm alarmed (CursorStream.next fuel) := by
  induction fuel with
  | zero => exact owner_wait
  | succ fuel ih =>
      refine owner_bind owner_popRow fun row => ?_
      cases row with
      | some row => exact owner_pure _
      | none =>
          refine owner_bind owner_get fun (stream, _) => owner_ite (owner_pure none) ?_
          refine owner_bind (owner_fetchBatch hInv) fun batch => ?_
          refine owner_bind (owner_modify fun _ => rfl) fun _ => ?_
          refine owner_bind owner_get fun (stream, _) => owner_ite ih ?_
          exact owner_bind (owner_modify fun _ => rfl) fun _ => owner_popRow

theorem owner_closePortal : TamedOwner net calm alarmed CursorStream.closePortal := by
  refine owner_bind owner_get fun (stream, _) => ?_
  have hClose : TamedOwner net calm alarmed
      (Async.onSnd (closePortal stream.portalName stream.ownsTransaction) >>= fun _ =>
        Async.modify fun (s : CursorStream × Connection) =>
          ({ s.1 with state := CursorStreamState.done {} }, s.2)) :=
    owner_bind (owner_onSnd (tamed_closePortal hInv _ _)) fun _ => owner_modify fun _ => rfl
  dsimp only
  cases stream.state with
  | done tag =>
      exact owner_doIf (owner_bind (owner_onSnd (tamed_execute hInv _)) fun _ => owner_pure ())
  | active => exact hClose
  | error => exact hClose

theorem owner_cursorConsume (fuel : Nat) : TamedOwner net calm alarmed
    (CursorStream.consume fuel) := by
  refine owner_bind ?_ fun _ => ?_
  · have hLoop : ∀ rows, TamedOwner net calm alarmed (CursorStream.drainLoop fuel rows) := by
      intro rows
      induction rows with
      | zero => exact owner_wait
      | succ rows ih =>
          refine owner_bind (owner_cursorNext hInv fuel) fun row => ?_
          cases row with
          | some row => exact ih
          | none => exact owner_pure ()
    exact hLoop fuel
  refine owner_bind (owner_closePortal hInv) fun _ => ?_
  refine owner_bind owner_get fun (stream, _) => ?_
  dsimp only
  cases stream.state <;> exact owner_pure _

theorem tamed_copyStart (state : ConnectionState)
    {response : BackendMessage → Option CopyResponseBody}
    (hResponse : ∀ message body, response message = some body →
      message = .copyInResponse body ∨ message = .copyOutResponse body) (violation sql : String) :
    Tamed net calm alarmed (copyStart state response violation sql) := by
  refine tamed_bind (tamed_transition hInv _) fun _ => ?_
  refine tamed_bind (tamed_send hInv _) fun _ => ?_
  apply tamed_loopThen hInv (tame_copyStart hResponse)
  · intro start hProgress
    cases start with
    | response format columnFormats => exact tamed_pure _
    | serverError body => exact absurd rfl (hProgress body)
    | unexpected =>
        refine tamed_bind (tamed_of_skips hInv (skips_readUntilReady hInv)) fun _ => ?_
        exact tamed_bind (tamed_setState hInv .idle) fun _ => tamed_fail hInv _
  · intro start errorBody hProgress
    cases start with
    | serverError body => exact skips_failServer hInv (skips_drainServerError hInv body)
    | _ => cases hProgress

theorem triple_tameFinishLoop : Triple net calm CopyIn.finishLoop
    (fun result conn => match result.1.progress with
      | .failed _ => alarmed conn
      | .inside | .ended => calm conn)
    (fun _ => alarmed) := by
  apply Triple.withLocal
  apply Triple.bind ((triple_tameLoop hInv tame_finish).pre_mono fun _ h => h.2)
  intro ending
  apply Triple.get_bind
  intro (rows, conn) h
  exact Triple.pure fun s hs => hs ▸ h

theorem owner_finish : TamedOwner net calm alarmed CopyIn.finish := by
  refine owner_bind (owner_onSnd (tamed_send hInv _)) fun _ => ?_
  have hLoop : Triple net (fun s : CopyIn × Connection => calm s.2) (Async.onSnd CopyIn.finishLoop)
      (fun result s => match result.1.progress with
        | .failed _ => alarmed s.2
        | .inside | .ended => calm s.2)
      (fun _ s => alarmed s.2) :=
    Triple.onSnd fun _ => triple_tameFinishLoop hInv
  apply Triple.bind hLoop
  intro (ending, rows)
  cases ending with
  | ready => exact owner_bind (owner_modify fun _ => rfl) fun _ => owner_pure _
  | serverError body =>
      exact owner_failServer hInv (skips_drainServerError hInv body) _ fun _ => rfl

theorem owner_cancel (reason : String) : TamedOwner net calm alarmed (CopyIn.cancel reason) := by
  refine owner_bind (owner_onSnd (tamed_send hInv _)) fun _ => ?_
  refine owner_bind (owner_onSnd (tamed_of_skips hInv (skips_readUntilReady hInv))) fun _ => ?_
  refine owner_bind (owner_modify fun _ => rfl) fun _ => ?_
  exact Triple.modify fun s h => hInv.frame s.2 _ ⟨rfl, rfl, rfl⟩ h

theorem owner_readNext : TamedOwner net calm alarmed CopyOut.readNext := by
  apply owner_loopThen hInv tame_copyRead
  · intro event hProgress
    cases event with
    | chunk data => exact owner_pure _
    | finished => exact owner_pure _
    | serverError body => exact absurd rfl (hProgress body)
  · intro event errorBody hProgress
    cases event with
    | serverError body =>
        exact owner_failServer hInv (skips_drainServerError hInv body) _ fun _ => rfl
    | _ => cases hProgress

theorem tamed_operation (op : Operation) : Tamed net calm alarmed op.run := by
  cases op with
  | query sql => exact tamed_map _ (tamed_query hInv sql)
  | execute sql => exact tamed_map _ (tamed_execute hInv sql)
  | queryOne sql => exact tamed_map _ (tamed_map _ (tamed_query hInv sql))
  | queryEach sql callback =>
      exact tamed_map _ (tamed_queryEach hInv sql _)
  | batchExecute sql => exact tamed_map _ (tamed_batchExecute hInv sql)
  | queryParams sql params => exact tamed_map _ (tamed_queryParams hInv sql params)
  | executeParams sql params => exact tamed_map _ (tamed_map _ (tamed_queryParams hInv sql params))
  | queryPrepared stmt params => exact tamed_map _ (tamed_queryPrepared hInv stmt params)
  | executePrepared stmt params =>
      exact tamed_map _ (tamed_map _ (tamed_queryPrepared hInv stmt params))
  | prepare sql => exact tamed_map _ (tamed_prepare hInv sql)
  | closeStatement stmt => exact tamed_closeStatement hInv stmt
  | pipeline queued => exact tamed_map _ (tamed_pipeline hInv queued)
  | ping => exact tamed_map _ (tamed_query hInv _)
  | recover => exact tamed_recover hInv

theorem tamed_opening (opening : Opening) : Tamed net calm alarmed opening.run := by
  cases opening with
  | queryStream sql => exact tamed_map _ (tamed_queryStream hInv sql)
  | queryParamsStream sql params => exact tamed_map _ (tamed_queryParamsStream hInv sql params)
  | queryPreparedStream stmt params =>
      exact tamed_map _ (tamed_queryPreparedStream hInv stmt params)
  | queryCursor sql params fetchSize =>
      exact tamed_map _ (tamed_queryCursor hInv sql params fetchSize)
  | queryCursorStream sql params fetchSize =>
      exact tamed_map _ (tamed_map _ (tamed_queryCursor hInv sql params fetchSize))
  | copyIn sql =>
      exact tamed_map _ (tamed_map _ (tamed_copyStart hInv _ copyInResponse_eq _ sql))
  | copyOut sql =>
      exact tamed_map _ (tamed_map _ (tamed_copyStart hInv _ copyOutResponse_eq _ sql))

end Wire

/-- Dropping a handle changes neither the wire nor what is said of the transaction. -/
theorem sameReports_drop (net : Network) (handle : Handle) (conn : Connection) :
    SameReports conn (handle.drop net conn) := by
  cases handle with
  | none | cursor cursor => exact ⟨rfl, rfl, rfl⟩
  | rowStream stream =>
      rw [Handle.drop, RowStream.drop_eq]
      exact ⟨rfl, rfl, rfl⟩
  | cursorStream stream =>
      rw [Handle.drop, CursorStream.drop_eq]
      exact ⟨rfl, rfl, rfl⟩
  | copyIn copy =>
      rw [Handle.drop, CopyIn.drop_eq]
      split <;> exact ⟨rfl, rfl, rfl⟩
  | copyOut copy =>
      rw [Handle.drop, CopyOut.drop_eq]
      split <;> exact ⟨rfl, rfl, rfl⟩

/-- What a call leaves; of one that has not returned nothing is said. -/
def Left (calm alarmed : Connection → Prop) : Outcome PgError Unit → Connection → Prop
  | .ok (), conn => calm conn
  | .err _, conn => alarmed conn
  | .pending, _ => True

theorem left_tamed {x : Client Unit} {conn : Connection} (hx : Tamed net calm alarmed x)
    (h : calm conn) : Left calm alarmed (x net conn).1 (x net conn).2 := by
  have hEnd := hx conn h
  revert hEnd
  match x net conn with
  | (.ok (), conn') => exact id
  | (.err e, conn') => exact id
  | (.pending, conn') => exact fun _ => trivial

theorem left_afterBorrow {L α : Type} {wrap : L → Handle} {x : Owner L α} {l : L}
    {conn : Connection} {outcome : Outcome PgError Unit} {s' : Session}
    (hCall : Session.afterBorrow wrap (x net (l, conn)) = (outcome, s'))
    (hx : TamedOwner net calm alarmed x) (h : calm conn) :
    Left calm alarmed outcome s'.conn := by
  have hEnd := hx (l, conn) h
  revert hEnd hCall
  match x net (l, conn) with
  | (.ok a, (l', conn')) =>
      intro hCall hEnd
      cases hCall
      exact hEnd
  | (.err e, (l', conn')) =>
      intro hCall hEnd
      cases hCall
      exact hEnd
  | (.pending, (l', conn')) =>
      intro hCall _
      cases hCall
      trivial

section Step

variable (hInv : Closed net calm alarmed)

include hInv

theorem left_afterCall {L α : Type} {wrap : L → Handle} {ended : α → Bool} {x : Owner L α} {l : L}
    {conn : Connection} {outcome : Outcome PgError Unit} {s' : Session}
    (hCall : Session.afterCall net wrap ended (x net (l, conn)) = (outcome, s'))
    (hx : TamedOwner net calm alarmed x) (h : calm conn) :
    Left calm alarmed outcome s'.conn := by
  have hEnd := hx (l, conn) h
  revert hEnd hCall
  match x net (l, conn) with
  | (.ok a, (l', conn')) =>
      intro hCall hEnd
      cases hCall
      dsimp only [Left]
      split
      · exact hInv.frame _ _ (sameReports_drop net (wrap l') conn') hEnd
      · exact hEnd
  | (.err e, (l', conn')) =>
      intro hCall hEnd
      cases hCall
      exact hInv.frameAlarmed _ _ (sameReports_drop net (wrap l') conn') hEnd
  | (.pending, (l', conn')) =>
      intro hCall _
      cases hCall
      trivial

theorem left_onHandle {call : HandleCall} {handle : Handle} {conn : Connection} (h : calm conn)
    {outcome : Outcome PgError Unit} {s' : Session}
    (hStep : Session.onHandle net conn call handle = some (outcome, s')) :
    Left calm alarmed outcome s'.conn := by
  cases call with
  | release =>
      have hDrop := hInv.frame _ _ (sameReports_drop net handle conn) h
      cases handle <;> cases hStep <;> exact hDrop
  | next =>
      cases handle with
      | rowStream stream => exact left_afterCall hInv (Option.some.inj hStep) (owner_next hInv) h
      | _ => cases hStep
  | consume =>
      cases handle with
      | rowStream stream => exact left_afterCall hInv (Option.some.inj hStep) (owner_consume hInv) h
      | _ => cases hStep
  | fetch =>
      cases handle with
      | cursor cursor => exact left_afterBorrow (Option.some.inj hStep) (owner_fetchNext hInv) h
      | _ => cases hStep
  | close =>
      cases handle with
      | cursor cursor =>
          cases hStep
          exact left_tamed (tamed_closePortal hInv _ _) h
      | _ => cases hStep
  | cursorNext fuel =>
      cases handle with
      | cursorStream stream =>
          exact left_afterCall hInv (Option.some.inj hStep) (owner_cursorNext hInv fuel) h
      | _ => cases hStep
  | cursorConsume fuel =>
      cases handle with
      | cursorStream stream =>
          exact left_afterCall hInv (Option.some.inj hStep) (owner_cursorConsume hInv fuel) h
      | _ => cases hStep
  | copyWrite data =>
      cases handle with
      | copyIn copy =>
          exact left_afterBorrow (Option.some.inj hStep) (owner_onSnd (tamed_send hInv _)) h
      | _ => cases hStep
  | copyFinish =>
      cases handle with
      | copyIn copy => exact left_afterCall hInv (Option.some.inj hStep) (owner_finish hInv) h
      | _ => cases hStep
  | copyCancel reason =>
      cases handle with
      | copyIn copy =>
          exact left_afterCall hInv (Option.some.inj hStep) (owner_cancel hInv reason) h
      | _ => cases hStep
  | copyRead =>
      cases handle with
      | copyOut copy => exact left_afterCall hInv (Option.some.inj hStep) (owner_readNext hInv) h
      | _ => cases hStep

/-- Every call. -/
theorem left_step {s s' : Session} (h : calm s.conn) {call : Call} {outcome : Outcome PgError Unit}
    (hStep : s.step net call = some (outcome, s')) : Left calm alarmed outcome s'.conn := by
  obtain ⟨handle, conn⟩ := s
  cases call with
  | operation op =>
      cases handle with
      | none =>
          cases hStep
          exact left_tamed (tamed_operation hInv op) h
      | _ => cases hStep
  | opening opening =>
      cases handle with
      | none =>
          have hEnd := tamed_opening hInv opening conn h
          simp only [Session.step] at hStep
          revert hEnd hStep
          cases opening.run net conn with
          | mk result conn' =>
              cases result with
              | ok handle =>
                  intro hStep hEnd
                  cases hStep
                  exact hEnd
              | err e =>
                  intro hStep hEnd
                  cases hStep
                  exact hEnd
              | pending =>
                  intro hStep _
                  cases hStep
                  trivial
      | _ => cases hStep
  | handle call => exact left_onHandle hInv h hStep

end Step

section History

variable {net : Network}

/-- What has been delivered stays delivered. -/
theorem closed_history (net : Network) (base : List FrontendMessage) :
    Closed net (fun conn => base <:+ conn.transport.history)
      (fun conn => base <:+ conn.transport.history) := by
  have hSame : ∀ conn conn' : Connection, conn'.transport.history = conn.transport.history →
      base <:+ conn.transport.history → base <:+ conn'.transport.history :=
    fun conn conn' hHistory h => hHistory ▸ h
  have hFrame : ∀ conn conn', SameReports conn conn' → base <:+ conn.transport.history →
      base <:+ conn'.transport.history :=
    fun conn conn' h => hSame conn conn' (by rw [h.transport])
  have hReady : ∀ (conn conn' : Connection) (rest : List Entry),
      conn'.transport = { conn.transport with inbox := rest } →
      base <:+ conn.transport.history → base <:+ conn'.transport.history :=
    fun conn conn' rest hTransport => hSame conn conn' (by rw [hTransport])
  exact {
    alarm := fun _ h => h
    frame := hFrame
    frameAlarmed := hFrame
    push := fun _ _ h => h
    flush := by
      intro conn t hFlush h
      rw [Transport.flushWrite_flushed hFlush, Transport.flushed_history]
      exact h.trans (List.suffix_append _ _)
    read := fun conn _ rest _ _ h => hSame conn (conn.setInbox rest) rfl h
    readAlarmed := fun conn _ rest _ _ h => hSame conn (conn.setInbox rest) rfl h
    ready := fun conn conn' _ rest _ hTransport _ _ => hReady conn conn' rest hTransport
    skipped := fun conn conn' _ rest _ hTransport _ _ => hReady conn conn' rest hTransport }

theorem history_step {s s' : Session} {call : Call} {outcome : Outcome PgError Unit}
    (hStep : s.step net call = some (outcome, s')) (hReturned : outcome ≠ .pending) :
    s.conn.transport.history <:+ s'.conn.transport.history := by
  have hLeft := left_step (closed_history net s.conn.transport.history) (List.suffix_refl _) hStep
  cases outcome with
  | ok value => exact hLeft
  | err e => exact hLeft
  | pending => exact absurd rfl hReturned

theorem history_reaches {s s' : Session} (hReach : Session.Reaches net s s') :
    s.conn.transport.history <:+ s'.conn.transport.history := by
  induction hReach with
  | start => exact List.suffix_refl _
  | step _ hStep hReturned ih => exact ih.trans (history_step hStep hReturned)

end History

end Connection
end PgClient
