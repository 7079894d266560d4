import PgClient.Effects.Reports

/-!
Calls that skip the reply of an abandoned stream before anything else, and calls that open
a COPY: how they leave the tracked flag.
-/

namespace PgClient

open Drive Async Connection

theorem skipReply_split (entries : List Entry) :
    match skipReply entries with
    | .complete _ _ => False
    | .failed status rest => ∃ skipped, entries = skipped ++ .ok (.readyForQuery status) :: rest ∧
        ∀ entry ∈ skipped, entry.isReady = false
    | .broken rest =>
        ∃ skipped, entries = skipped ++ rest ∧ ∀ entry ∈ skipped, entry.isReady = false
    | .short => ∀ entry ∈ entries, entry.isReady = false := by
  induction entries with
  | nil => simp [skipReply]
  | cons entry entries ih =>
      have hLater : entry.isReady = false → skipReply (entry :: entries) = skipReply entries →
          match skipReply (entry :: entries) with
          | .complete _ _ => False
          | .failed status rest =>
              ∃ skipped, entry :: entries = skipped ++ .ok (.readyForQuery status) :: rest ∧
                ∀ entry ∈ skipped, entry.isReady = false
          | .broken rest =>
              ∃ skipped, entry :: entries = skipped ++ rest ∧
                ∀ entry ∈ skipped, entry.isReady = false
          | .short => ∀ e ∈ entry :: entries, e.isReady = false := by
        intro hReady hSkip
        rw [hSkip]
        revert ih
        cases skipReply entries with
        | complete status rest => exact id
        | failed status rest | broken rest =>
            intro ih
            obtain ⟨skipped, hSplit, hSkipped⟩ := ih
            exact ⟨entry :: skipped, by simp [hSplit], by simpa [hReady] using hSkipped⟩
        | short =>
            intro ih
            simpa [hReady] using ih
      cases entry with
      | error e => exact ⟨[.error e], rfl, by simp [Entry.isReady]⟩
      | ok message =>
          cases message with
          | readyForQuery status => exact ⟨[], rfl, by simp⟩
          | _ => exact hLater rfl rfl

theorem Transport.Consumed.takeAll {net : Network} {read taken rest : List Entry} {t : Transport}
    (h : t.Consumed net read) (hInbox : t.inbox = taken ++ rest) :
    ({ t with inbox := rest } : Transport).Consumed net (read ++ taken) :=
  ⟨h.ending, by simp [h.emitted, hInbox]⟩

/-- Once a reply has ended, it is forgotten whether one had begun before. -/
theorem scan_of_ready {read : List Entry} (hReady : ∃ entry ∈ read, entry.isReady)
    (state state' : Bool × Bool) (hBegun : state.1 = state'.1) :
    (read.foldl scanReplies state).2 = (read.foldl scanReplies state').2 := by
  induction read generalizing state state' with
  | nil =>
      obtain ⟨_, hMem, _⟩ := hReady
      cases hMem
  | cons entry read ih =>
      rw [List.foldl_cons, List.foldl_cons]
      by_cases hFirst : entry.isReady
      · have hSame : scanReplies state entry = scanReplies state' entry := by
          cases entry with
          | error e => cases hFirst
          | ok message =>
              cases message with
              | readyForQuery status => simp [scanReplies, hBegun]
              | _ => cases hFirst
        rw [hSame]
      · apply ih
        · obtain ⟨e, hMem, hReady⟩ := hReady
          obtain rfl | hMem := List.mem_cons.mp hMem
          · exact absurd hReady hFirst
          · exact ⟨e, hMem, hReady⟩
        · cases entry with
          | error e => exact hBegun
          | ok message =>
              cases message with
              | errorResponse body => rfl
              | readyForQuery status => exact absurd rfl hFirst
              | _ => exact hBegun

namespace Connection

variable {net : Network} {conn conn' : Connection} {before : List Entry}

/-- A reply that is to be skipped has been, and then comes the rest of the call. -/
def RecoversFirst {α : Type} (net : Network) (conn : Connection) (x : Client α) : Prop :=
  ∃ k : Client α, x net conn = (recover >>= fun _ => k) net conn ∧
    ∀ calm alarmed, Closed net calm alarmed → Tamed net calm alarmed k

section RecoversFirst

variable {α β : Type} {x : Client α}

theorem RecoversFirst.bind (h : RecoversFirst net conn x) {f : α → Client β}
    (hf : ∀ calm alarmed, Closed net calm alarmed → ∀ a, Tamed net calm alarmed (f a)) :
    RecoversFirst net conn (x >>= f) := by
  obtain ⟨k, hEq, hTamed⟩ := h
  refine ⟨k >>= f, ?_, fun calm alarmed hInv => tamed_bind (hTamed _ _ hInv) (hf _ _ hInv)⟩
  rw [bind_apply, hEq, ← bind_apply, bind_assoc]

theorem recoversFirst_recover : RecoversFirst net conn recover := by
  refine ⟨pure (), ?_, fun _ _ _ => tamed_pure ()⟩
  rw [show (recover >>= fun _ => pure ()) = recover from bind_pure recover]

theorem recoversFirst_queryStream (sql : String) : RecoversFirst net conn (queryStream sql) := by
  refine ⟨_, rfl, fun calm alarmed hInv => ?_⟩
  exact tamed_bind (tamed_transition hInv .streaming) fun _ => tamed_map _ (tamed_send hInv _)

theorem recoversFirst_query (sql : String) : RecoversFirst net conn (query sql) := by
  refine (recoversFirst_queryStream sql).bind fun calm alarmed hInv stream => tamed_scope hInv ?_
  refine owner_bind (owner_drain hInv) fun rows => ?_
  exact owner_bind owner_get fun _ => owner_pure _

theorem RecoversFirst.map (h : RecoversFirst net conn x) (f : α → β) :
    RecoversFirst net conn (x >>= fun a => pure (f a)) :=
  h.bind fun _ _ _ _ => tamed_pure _

theorem recoversFirst_execute (sql : String) : RecoversFirst net conn (execute sql) :=
  (recoversFirst_query sql).map _

theorem recoversFirst_queryEach (sql : String) (f : List Row → Row → Except PgError Unit) :
    RecoversFirst net conn (queryEach sql f) :=
  (recoversFirst_queryStream sql).bind fun _ _ hInv stream => tamed_each hInv f stream

theorem recoversFirst_queryParamsStream (sql : String) (params : List ToSql) :
    RecoversFirst net conn (queryParamsStream sql params) := by
  refine ⟨_, rfl, fun calm alarmed hInv => ?_⟩
  refine tamed_bind (tamed_transition hInv _) fun _ => ?_
  refine tamed_bind (tamed_lift hInv _) fun values => ?_
  exact tamed_bind (tamed_sendBatch hInv _) fun _ => tamed_readPreamble hInv

theorem recoversFirst_queryPreparedStream (stmt : PreparedStatement) (params : List ToSql) :
    RecoversFirst net conn (queryPreparedStream stmt params) := by
  refine ⟨_, rfl, fun calm alarmed hInv => ?_⟩
  refine tamed_bind (tamed_transition hInv _) fun _ => ?_
  refine tamed_bind (tamed_lift hInv _) fun values => ?_
  exact tamed_map _ (tamed_sendBatch hInv _)

theorem recoversFirst_queryCursor (sql : String) (params : List ToSql) (fetchSize : Int32)
    (hIdle : conn.transactionStatus = .idle) :
    RecoversFirst net conn (queryCursor sql params fetchSize) := by
  have hBegin : RecoversFirst net conn (do
      let _ ← query "BEGIN") := (recoversFirst_query "BEGIN").map _
  obtain ⟨k, hEq, hTamed⟩ := hBegin.bind (f := fun _ => _) fun calm alarmed hInv _ =>
    tamed_openPortal hInv sql params fetchSize true
  refine ⟨k, ?_, hTamed⟩
  have hNeed : decide (conn.transactionStatus = .idle) = true := decide_eq_true hIdle
  rw [← hEq, queryCursor, bind_of_ok (get_apply ..), hNeed]
  rfl

end RecoversFirst

/-- A call that has skipped a reply first: what is then read speaks from what that reply
has said on. -/
theorem informed_of_recoversFirst {α : Type} {x : Client α} (h : RecoversFirst net conn x)
    (hFlag : conn.needsRecovery) (hConsumed : conn.transport.Consumed net before)
    (hAgreeing : conn.Agreeing) {outcome : Outcome PgError α} (hRun : x net conn = (outcome, conn'))
    (hReturned : outcome ≠ .pending) :
    ∃ read, conn'.transport.Consumed net (before ++ read) ∧
      ((∃ inTransaction, SaysOnly inTransaction read) ∨ endsInError read → conn'.Agreeing) := by
  obtain ⟨k, hEq, hTamed⟩ := h
  have hRecover := recover_core net hFlag
  have hSplit := skipReply_split conn.transport.inbox
  have hFails : ∀ {result : Outcome PgError Unit} {conn₁ : Connection} {taken rest : List Entry},
      recover net conn = (result, conn₁) → (∀ a, result ≠ .ok a) →
      conn₁.core = conn.core.read rest → conn.transport.inbox = taken ++ rest →
      ∃ read, conn'.transport.Consumed net (before ++ read) ∧
        ((∃ inTransaction, SaysOnly inTransaction read) ∨ endsInError read → conn'.Agreeing) := by
    intro result conn₁ taken rest hFirst hErr hCore hInbox
    have hSame : conn' = conn₁ := by
      rw [hEq, bind_apply, hFirst] at hRun
      cases result with
      | ok a => exact absurd rfl (hErr a)
      | err e => exact (congrArg Prod.snd hRun).symm
      | pending => exact (congrArg Prod.snd hRun).symm
    have hTransport : conn₁.transport = { conn.transport with inbox := rest } :=
      congrArg Core.transport hCore
    have hStatus : conn₁.transactionStatus = conn.transactionStatus :=
      congrArg Core.transactionStatus hCore
    have hSession : conn₁.sessionState = conn.sessionState := congrArg Core.sessionState hCore
    refine ⟨taken, ?_, fun _ => ?_⟩
    · rw [hSame, hTransport]
      exact hConsumed.takeAll hInbox
    · simp only [hSame, Agreeing, hStatus, hSession]
      exact hAgreeing
  revert hRecover hSplit
  cases skipReply conn.transport.inbox with
  | complete status rest => exact fun hFalse => hFalse.elim
  | broken rest =>
      intro hRecover hSplit
      obtain ⟨e, conn₁, hFirst, hCore⟩ := hRecover
      obtain ⟨skipped, hInbox, _⟩ := hSplit
      exact hFails hFirst (by simp) hCore hInbox
  | short =>
      intro hRecover _
      obtain ⟨result, conn₁, hFirst, hErr, hCore⟩ := hRecover
      exact hFails hFirst hErr hCore (List.append_nil _).symm
  | failed status rest =>
      intro hRecover hSplit
      obtain ⟨conn₁, hFirst, hCore⟩ := hRecover
      obtain ⟨skipped, hInbox, hSkipped⟩ := hSplit
      have hTransport : conn₁.transport = { conn.transport with inbox := rest } :=
        congrArg Core.transport hCore
      have hStatus : conn₁.transactionStatus = .ofReady status :=
        congrArg Core.transactionStatus hCore
      have hSession : conn₁.sessionState = conn.sessionState.setInTransaction
          (TransactionStatus.ofReady status ≠ .idle) := congrArg Core.sessionState hCore
      have hAgreeing₁ : conn₁.Agreeing := by
        simp only [Agreeing, hStatus, hSession]
        rfl
      have hInbox : conn.transport.inbox = (skipped ++ [.ok (.readyForQuery status)]) ++ rest := by
        simp [hInbox]
      have hConsumed₁ := hConsumed.takeAll hInbox
      rw [← hTransport] at hConsumed₁
      have hEnd := hTamed _ _ (closed_unalarmed net _ _) conn₁
        (unalarmed_start hConsumed₁ hAgreeing₁)
      rw [hEq, bind_of_ok hFirst] at hRun
      rw [hRun] at hEnd
      have hReporting : Reporting net (before ++ (skipped ++ [.ok (.readyForQuery status)]))
          conn₁.transactionStatus.isOpen conn' := by
        cases outcome with
        | ok a => exact (closed_unalarmed net _ _).alarm _ hEnd
        | err e => exact hEnd
        | pending => exact absurd rfl hReturned
      obtain ⟨read, hInformed⟩ := hReporting
      refine ⟨skipped ++ [.ok (.readyForQuery status)] ++ read, ?_, ?_⟩
      · rw [← List.append_assoc]
        exact hInformed.consumed
      · intro hRead
        obtain ⟨inTransaction, hSays⟩ | hError := hRead
        · obtain ⟨hFirst, hLater⟩ := saysOnly_append.mp hSays
          have hSide := hFirst (.ok (.readyForQuery status)) (by simp)
          have hOpen : conn₁.transactionStatus.isOpen = inTransaction := by
            rw [hStatus]
            exact eq_of_beq hSide
          exact (hInformed.steady (hOpen ▸ hLater)).agreeing
        · by_cases hReady : ∃ entry ∈ read, entry.isReady
          · apply hInformed.failed
            rw [endsInError, List.foldl_append] at hError
            rw [endsInError, ← hError]
            apply scan_of_ready hReady
            simp [List.foldl_append, scanReplies]
          · apply (hInformed.steady _).agreeing
            apply saysOnly_of_noReady
            simpa using hReady

/-- What a call reads says enough of the flag: all of it is on the side on which status and
flag are, or, for a call that skips a reply first, on any one side; or it ends with a reply
to an error. -/
def Faithful (conn : Connection) (recovers : Bool) (read : List Entry) : Prop :=
  SaysOnly conn.transactionStatus.isOpen read ∨
    (recovers ∧ conn.needsRecovery ∧ ∃ inTransaction, SaysOnly inTransaction read) ∨
    endsInError read

theorem faithful_of_reporting (hReporting : Reporting net before
    conn.transactionStatus.isOpen conn') :
    ∃ read, conn'.transport.Consumed net (before ++ read) ∧
      (Faithful conn false read → conn'.Agreeing) := by
  obtain ⟨read, hInformed⟩ := hReporting
  refine ⟨read, hInformed.consumed, ?_⟩
  intro hFaithful
  obtain hSays | ⟨hFalse, _⟩ | hError := hFaithful
  · exact (hInformed.steady hSays).agreeing
  · cases hFalse
  · exact hInformed.failed hError

theorem agreeing_of_faithful {α : Type} {x : Client α} {recovers : Bool}
    (hTamed : ∀ calm alarmed, Closed net calm alarmed → Tamed net calm alarmed x)
    (hRecovers : recovers → RecoversFirst net conn x)
    (hConsumed : conn.transport.Consumed net before) (hAgreeing : conn.Agreeing)
    {outcome : Outcome PgError α} (hRun : x net conn = (outcome, conn'))
    (hReturned : outcome ≠ .pending) :
    ∃ read, conn'.transport.Consumed net (before ++ read) ∧
      (Faithful conn recovers read → conn'.Agreeing) := by
  by_cases hFlag : recovers ∧ conn.needsRecovery
  · obtain ⟨read, hRead, hEnd⟩ := informed_of_recoversFirst (hRecovers hFlag.1) hFlag.2 hConsumed
      hAgreeing hRun hReturned
    refine ⟨read, hRead, ?_⟩
    intro hFaithful
    apply hEnd
    obtain hSays | ⟨_, _, hSays⟩ | hError := hFaithful
    · exact .inl ⟨_, hSays⟩
    · exact .inl hSays
    · exact .inr hError
  · have hClosed := closed_unalarmed net before conn.transactionStatus.isOpen
    have hEnd := hTamed _ _ hClosed conn (unalarmed_start hConsumed hAgreeing)
    rw [hRun] at hEnd
    have hReporting : Reporting net before conn.transactionStatus.isOpen conn' := by
      cases outcome with
      | ok a => exact hClosed.alarm _ hEnd
      | err e => exact hEnd
      | pending => exact absurd rfl hReturned
    obtain ⟨read, hRead, hEnd⟩ := faithful_of_reporting hReporting
    refine ⟨read, hRead, ?_⟩
    intro hFaithful
    apply hEnd
    obtain hSays | ⟨hFirst, hNeeds, _⟩ | hError := hFaithful
    · exact .inl hSays
    · exact absurd ⟨hFirst, hNeeds⟩ hFlag
    · exact .inr (.inr hError)

section Copy

/-- The loop that skips a reply leaves flag and status alone or brings them together. -/
theorem agreeing_readUntilReady :
    Triple net Agreeing readUntilReady (fun _ => Agreeing) (fun _ => Agreeing) := by
  apply Triple.withLocal
  intro (_, conn) h
  have hSkip := drive_readUntilReady conn.transport.inbox conn
  have hSame : ∀ {conn' : Connection} {rest : List Entry}, conn'.core = conn.core →
      (conn'.setInbox rest).Agreeing := by
    intro conn' rest hCore
    have hStatus : conn'.transactionStatus = conn.transactionStatus :=
      congrArg Core.transactionStatus hCore
    have hSession : conn'.sessionState = conn.sessionState := congrArg Core.sessionState hCore
    simp only [Agreeing, setInbox, hStatus, hSession]
    exact h.2
  cases hDrive : drive (readStep readUntilReadyBody) ((), conn) conn.transport.inbox with
  | waiting s =>
      rw [hDrive] at hSkip
      obtain ⟨outcome, hLoop, hEnd⟩ := RowStream.messageLoop_short net hDrive
      rw [hLoop]
      obtain ⟨rfl, _⟩ | ⟨e, rfl, _⟩ := hEnd
      · trivial
      · exact hSame hSkip.2
  | done result s rest =>
      rw [hDrive] at hSkip
      simp only [messageLoop, hDrive]
      cases result with
      | error e => exact hSame hSkip.2.1
      | ok value =>
          obtain ⟨status, _, hCore⟩ := hSkip
          have hStatus : s.2.transactionStatus = .ofReady status :=
            congrArg Core.transactionStatus hCore
          have hSession : s.2.sessionState = conn.sessionState.setInTransaction
              (TransactionStatus.ofReady status ≠ .idle) := congrArg Core.sessionState hCore
          simp only [Outcome.ofExcept_ok, post_ok, Agreeing, setInbox, hStatus, hSession]
          rfl

theorem agreeing_drainServerError (body : ErrorBody) :
    Triple net Agreeing (drainServerError body) (fun _ => Agreeing) (fun _ => Agreeing) := by
  apply Triple.bind_via (fun _ => Agreeing) (Triple.lift (fun _ _ _ h => h) fun _ _ _ h => h)
  intro serverErr
  apply Triple.bind agreeing_readUntilReady
  intro _
  exact Triple.modify_bind Agreeing (fun _ h => h) (Triple.pure fun _ h => h)

theorem agreeing_sendBatch (messages : List FrontendMessage) :
    Triple net Agreeing (sendBatch messages) (fun _ => Agreeing) (fun _ => Agreeing) := by
  intro conn h
  rw [onTransport_sendBatch messages conn conn rfl]
  cases (sendBatch messages net conn).1 with
  | ok value => exact h
  | err e => exact h
  | pending => trivial

theorem agreeing_copyStartLoop (response : BackendMessage → Option CopyResponseBody) :
    Triple net Agreeing (Async.withLocal () (messageLoop (copyStartBody response)))
      (fun _ => Agreeing) (fun _ => Agreeing) := by
  have hBody : ∀ (s : Unit × Connection) message, s.2.Agreeing →
      match copyStartBody response s message with
      | .next s' => s'.2.Agreeing
      | .exit _ s' => s'.2.Agreeing := by
    intro s message h
    simp only [copyStartBody, Connection.asyncFirst]
    cases hAsync : s.2.handleAsyncMessage message with
    | some conn =>
        have hCore := core_of_handleAsyncMessage hAsync
        have hStatus : conn.transactionStatus = s.2.transactionStatus :=
          congrArg Core.transactionStatus hCore
        have hSession : conn.sessionState = s.2.sessionState := congrArg Core.sessionState hCore
        simp only [Agreeing, hStatus, hSession]
        exact h
    | none =>
        cases response message with
        | some body =>
            dsimp only
            cases ioResult body.columnFormats <;> exact h
        | none => cases message <;> exact h
  apply Triple.withLocal
  intro s h
  have hDrive := drive_invariant (readStep (copyStartBody response)) (fun s => s.2.Agreeing)
    (fun _ s => s.2.Agreeing)
    (by
      intro s₁ entry s₂ h hStep
      cases entry with
      | error e => cases hStep
      | ok message =>
          have hNext := hBody s₁ message h
          rw [show copyStartBody response s₁ message = .next s₂ from hStep] at hNext
          exact hNext)
    (by
      intro s₁ entry result s₂ h hStep
      cases entry with
      | error e =>
          cases hStep
          exact h
      | ok message =>
          have hExit := hBody s₁ message h
          rw [show copyStartBody response s₁ message = .exit result s₂ from hStep] at hExit
          exact hExit)
    h.2 s.2.transport.inbox
  simp only [messageLoop]
  revert hDrive
  cases drive (readStep (copyStartBody response)) s s.2.transport.inbox with
  | waiting s' =>
      intro hDrive
      cases s.2.transport.ending with
      | none => trivial
      | some e => exact hDrive
  | done result s' rest =>
      intro hDrive
      cases result with
      | ok start => exact hDrive
      | error e => exact hDrive

/-- Opening a COPY reads the end of a reply only where it skips it. -/
theorem agreeing_copyStart (state : ConnectionState)
    (response : BackendMessage → Option CopyResponseBody) (violation sql : String) :
    Triple net Agreeing (copyStart state response violation sql) (fun _ => Agreeing)
      (fun _ => Agreeing) := by
  have hTransition : Triple net Agreeing (transition state) (fun _ => Agreeing)
    (fun _ => Agreeing) := by
    intro conn h
    simp only [transition]
    split <;> exact h
  apply Triple.bind hTransition
  intro _
  apply Triple.bind
  · rw [send_eq_sendBatch]
    exact agreeing_sendBatch _
  intro _
  apply Triple.bind (agreeing_copyStartLoop response)
  intro start
  cases start with
  | response format columnFormats => exact Triple.pure fun _ h => h
  | serverError body =>
      exact Triple.bind (agreeing_drainServerError body) fun _ => Triple.fail fun _ h => h
  | unexpected =>
      apply Triple.bind agreeing_readUntilReady
      intro _
      exact Triple.modify_bind Agreeing (fun _ h => h) (Triple.fail fun _ h => h)

end Copy

end Connection

namespace Call

def opensCopy : Call → Bool
  | .opening (.copyIn _) | .opening (.copyOut _) => true
  | _ => false

/-- The calls that skip the reply of an abandoned stream before anything else. -/
def recovers (conn : Connection) : Call → Bool
  | .operation (.query _) | .operation (.execute _) | .operation (.queryOne _)
  | .operation (.queryEach _ _) | .operation .ping | .operation .recover => true
  | .opening (.queryStream _) | .opening (.queryParamsStream _ _)
  | .opening (.queryPreparedStream _ _) => true
  | .opening (.queryCursor _ _ _) | .opening (.queryCursorStream _ _ _) =>
      conn.transactionStatus = .idle
  | _ => false

variable {net : Network} {conn : Connection}

theorem recoversFirst_operation {op : Operation} (h : recovers conn (.operation op)) :
    RecoversFirst net conn op.run := by
  cases op with
  | query sql => exact (recoversFirst_query sql).map _
  | execute sql => exact (recoversFirst_execute sql).map _
  | queryOne sql => exact ((recoversFirst_query sql).map _).map _
  | queryEach sql callback =>
      exact (recoversFirst_queryEach sql _).map _
  | ping => exact (recoversFirst_query _).map _
  | recover => exact recoversFirst_recover
  | _ => cases h

theorem recoversFirst_opening {opening : Opening} (h : recovers conn (.opening opening)) :
    RecoversFirst net conn opening.run := by
  cases opening with
  | queryStream sql => exact (recoversFirst_queryStream sql).map _
  | queryParamsStream sql params => exact (recoversFirst_queryParamsStream sql params).map _
  | queryPreparedStream stmt params => exact (recoversFirst_queryPreparedStream stmt params).map _
  | queryCursor sql params fetchSize =>
      exact (recoversFirst_queryCursor sql params fetchSize (of_decide_eq_true h)).map _
  | queryCursorStream sql params fetchSize =>
      exact ((recoversFirst_queryCursor sql params fetchSize (of_decide_eq_true h)).map _).map _
  | _ => cases h

theorem agreeing_opensCopy {opening : Opening} (h : opensCopy (.opening opening)) :
    Triple net Agreeing opening.run (fun _ => Agreeing) (fun _ => Agreeing) := by
  cases opening with
  | copyIn sql =>
      exact Triple.bind (Triple.bind (agreeing_copyStart _ _ _ sql) fun _ => Triple.pure
        fun _ h => h)
        fun _ => Triple.pure fun _ h => h
  | copyOut sql =>
      exact Triple.bind (Triple.bind (agreeing_copyStart _ _ _ sql) fun _ => Triple.pure
        fun _ h => h)
        fun _ => Triple.pure fun _ h => h
  | _ => cases h

/-- A call that has returned, by what it has read. -/
theorem agreeing_step {s s' : Session} {before : List Entry} {call : Call}
    {outcome : Outcome PgError Unit} (hConsumed : s.conn.transport.Consumed net before)
    (hAgreeing : s.conn.Agreeing) (hStep : s.step net call = some (outcome, s'))
    (hReturned : outcome ≠ .pending) :
    ∃ read, s'.conn.transport.Consumed net (before ++ read) ∧
      (call.opensCopy ∨ Connection.Faithful s.conn (call.recovers s.conn) read →
        s'.conn.Agreeing) := by
  have hClosed := closed_unalarmed net before s.conn.transactionStatus.isOpen
  have hLeft := left_step hClosed (unalarmed_start hConsumed hAgreeing) hStep
  have hReporting : Reporting net before s.conn.transactionStatus.isOpen s'.conn := by
    cases outcome with
    | ok value => exact hClosed.alarm _ hLeft
    | err e => exact hLeft
    | pending => exact absurd rfl hReturned
  obtain ⟨handle, conn⟩ := s
  cases call with
  | handle call =>
      obtain ⟨read, hRead, hEnd⟩ := faithful_of_reporting hReporting
      refine ⟨read, hRead, ?_⟩
      intro h
      obtain hCopy | hFaithful := h
      · cases hCopy
      · exact hEnd hFaithful
  | operation op =>
      cases handle with
      | none =>
          obtain ⟨read, hRead, hEnd⟩ := agreeing_of_faithful
            (fun _ _ hInv => tamed_operation hInv op) recoversFirst_operation hConsumed hAgreeing
            (show op.run net conn = (outcome, s'.conn) by cases hStep; rfl) hReturned
          refine ⟨read, hRead, ?_⟩
          intro h
          obtain hCopy | hFaithful := h
          · cases hCopy
          · exact hEnd hFaithful
      | _ => cases hStep
  | opening opening =>
      cases handle with
      | none =>
          have hRun : ∃ result, opening.run net conn = (result, s'.conn) ∧ result ≠ .pending := by
            simp only [Session.step] at hStep
            revert hStep
            cases opening.run net conn with
            | mk result conn' =>
                cases result with
                | ok opened =>
                    intro hStep
                    cases hStep
                    exact ⟨_, rfl, by simp⟩
                | err e =>
                    intro hStep
                    cases hStep
                    exact ⟨_, rfl, by simp⟩
                | pending =>
                    intro hStep
                    cases hStep
                    exact absurd rfl hReturned
          obtain ⟨result, hRun, hResult⟩ := hRun
          obtain ⟨read, hRead, hEnd⟩ := agreeing_of_faithful
            (fun _ _ hInv => tamed_opening hInv opening) recoversFirst_opening hConsumed hAgreeing
            hRun hResult
          refine ⟨read, hRead, ?_⟩
          intro h
          obtain hCopy | hFaithful := h
          · have hAgrees := @agreeing_opensCopy net opening hCopy conn hAgreeing
            rw [hRun] at hAgrees
            cases result with
            | ok opened => exact hAgrees
            | err e => exact hAgrees
            | pending => exact absurd rfl hResult
          · exact hEnd hFaithful
      | _ => cases hStep

end Call
end PgClient
