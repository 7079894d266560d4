import PgClient.Deadlock.Copies
import PgClient.Effects.Calls
import PgClient.Effects.Posted
import PgClient.Pairing.Session

/-!
The statements that `prepare` has handed out, against those on the server. As long as a session
goes on, the server has every one of them that has not been closed, with its text, the types of
its parameters and its columns.
-/

namespace PgClient

open Drive Async Connection

/-- What a server keeps under the name of the statement is what the caller was told. -/
structure PreparedStatement.Matches (net : Network) (stmt : PreparedStatement)
    (stored : StoredStatement) : Prop where
  sql : stmt.sql = stored.sql
  paramTypes : stmt.paramTypes =
    stored.paramTypes.map fun oid => (net.typeFromOid oid).getD unknownType
  columns : stmt.columns = stored.fields.getD []

namespace Connection

section Learning

/-- What `prepare` learns of its statement from one message. -/
def described (typeFromOid : Oid → Option Oid) (prep : PrepareState) : Entry → PrepareState
  | .ok (.parameterDescription (.ok types)) =>
      { prep with
        paramTypes := prep.paramTypes ++
          types.map fun oid => (typeFromOid oid).getD unknownType }
  | .ok (.rowDescription (.ok fields)) => { prep with columns := fields }
  | _ => prep

theorem learns_prepare (typeFromOid : Oid → Option Oid) :
    Learns (described typeFromOid) (prepareBody typeFromOid) := by
  intro prep conn message
  simp only [prepareBody, asyncFirst]
  cases hAsync : conn.handleAsyncMessage message with
  | some conn' =>
      have hKind : message.isAsync := by rw [← handleAsyncMessage_isSome conn, hAsync]; rfl
      cases message <;> first | exact ⟨rfl, _, rfl, rfl, rfl⟩ | cases hKind
  | none =>
      cases message with
      | readyForQuery status => exact ⟨status, rfl, rfl⟩
      | errorResponse body => trivial
      | parameterDescription types =>
          cases types with
          | ok types => exact ⟨rfl, _, rfl, rfl, rfl⟩
          | error e => trivial
      | rowDescription fields =>
          cases fields with
          | ok fields => exact ⟨rfl, _, rfl, rfl, rfl⟩
          | error e => trivial
      | _ => exact ⟨rfl, _, rfl, rfl, rfl⟩

/-- Asynchronous messages say nothing of the statement. -/
theorem foldl_described (typeFromOid : Oid → Option Oid) {entries : List Entry}
    (h : ∀ entry ∈ entries, Passed entry) (prep : PrepareState) :
    entries.foldl (described typeFromOid) prep =
      ((replyOf entries).map .ok).foldl (described typeFromOid) prep := by
  induction entries generalizing prep with
  | nil => rfl
  | cons entry entries ih =>
      obtain ⟨⟨message, rfl, -, -⟩, hOthers⟩ := List.forall_mem_cons.mp h
      rw [List.foldl_cons, ih hOthers, replyOf_cons_ok]
      split
      case isTrue hAsync => cases message <;> first | rfl | cases hAsync
      case isFalse => rfl

/-- A description gives a statement that matches. -/
theorem matches_of_description {net : Network} {stmt : PreparedStatement}
    {stored : StoredStatement} (hSql : stmt.sql = stored.sql)
    (h : (⟨stmt.paramTypes, stmt.columns⟩ : PrepareState) =
      ((BackendMessage.parseComplete :: stored.description).map .ok).foldl
        (described net.typeFromOid) {}) : stmt.Matches net stored := by
  obtain ⟨sql, paramTypes, fields⟩ := stored
  cases fields with
  | none =>
      obtain ⟨hTypes, hColumns⟩ := PrepareState.mk.inj h
      exact ⟨hSql, hTypes, hColumns⟩
  | some fields =>
      obtain ⟨hTypes, hColumns⟩ := PrepareState.mk.inj h
      exact ⟨hSql, hTypes, hColumns⟩

end Learning

section Preparing

variable {net : Network} {sql : String} {conn conn' : Connection} {stmt : PreparedStatement}

/-- The messages of `prepare`. -/
def prepareBatch (name sql : String) : List FrontendMessage :=
  [.parse name sql [], .describe .statement name, .sync]

/-- A statement that has been handed out: its messages have been sent, and it is what has been
learnt up to the end of their answer. -/
structure HandsOut (net : Network) (sql : String) (conn : Connection) (stmt : PreparedStatement)
    (conn' : Connection) : Prop where
  text : stmt.sql = sql
  posted : conn'.transport.posted =
    (prepareBatch stmt.name sql).reverse ++ conn.transport.posted
  read : ∃ taken status, ((conn.transport.flushed net).deliverAll net
      (prepareBatch stmt.name sql)).inbox =
        taken ++ .ok (.readyForQuery status) :: conn'.transport.inbox ∧
    (⟨stmt.paramTypes, stmt.columns⟩ : PrepareState) =
      taken.foldl (described net.typeFromOid) {} ∧
    ∀ entry ∈ taken, Passed entry

/-- What is handed out under a name that has been drawn. -/
theorem handsOut_of_prepareAs {name : String}
    (h : prepareAs sql name net conn = (.ok stmt, conn')) :
    stmt.name = name ∧ HandsOut net sql conn stmt conn' := by
  obtain ⟨_, conn₁, hSend, h⟩ := ok_of_bind h
  obtain ⟨_, _, hEnv, h⟩ := ok_of_bind h
  cases hEnv
  obtain ⟨prep, h⟩ := ok_of_withLocal h
  obtain ⟨ending, ⟨prep₁, conn₂⟩, hLoop, h⟩ := ok_of_bind h
  cases ending with
  | serverError body =>
      obtain ⟨_, s₂, -, h⟩ := ok_of_bind h
      cases h
  | ready =>
      cases h
      have hKeeps : Keeps net (fun s : PrepareState × Connection => OnlyRead conn₁.transport s.2)
          (messageLoop (prepareBody net.typeFromOid)) := keeps_onlyRead (orderly_prepare _)
      have hRead := hKeeps ({}, conn₁) (onlyRead_self conn₁)
      rw [hLoop] at hRead
      obtain ⟨inbox, hTransport⟩ := hRead
      obtain ⟨taken, status, hInbox, hLearnt, hPassed⟩ := learnt_of_ready (learns_prepare _) hLoop
      have hSent := congrArg Connection.transport (sent_of_sendBatch net conn hSend)
      refine ⟨rfl, rfl, ?_, taken, status, ?_, hLearnt, hPassed⟩
      · calc
          conn'.transport.posted = conn₁.transport.posted := by rw [hTransport]; rfl
          _ = _ := posted_of_sendBatch net conn hSend
      · rw [← hInbox, hSent]
        rfl

theorem numbered_ne_empty (n : Nat) : "__pg_stmt_" ++ toString n ≠ "" := by
  intro h
  have hLength := congrArg String.length h
  rw [String.length_append] at hLength
  simp at hLength

theorem handsOut_of_prepare (h : prepare sql net conn = (.ok stmt, conn')) :
    conn.state = .idle ∧ stmt.name ≠ "" ∧ HandsOut net sql conn stmt conn' := by
  rw [prepare_eq] at h
  obtain ⟨_, conn₁, hTransition, h⟩ := ok_of_bind h
  obtain ⟨name, conn₂, hName, h⟩ := ok_of_bind h
  obtain ⟨hSame, hHandsOut⟩ := handsOut_of_prepareAs h
  have hIdle := idle_of_transition rfl hTransition
  have hTransport : conn₂.transport = conn.transport := by
    rw [← transport_of_transition hTransition]
    cases hName
    rfl
  refine ⟨hIdle, ?_, hHandsOut.text, ?_, ?_⟩
  · rw [hSame]
    cases hName
    exact numbered_ne_empty _
  · rw [← hTransport]
    exact hHandsOut.posted
  · rw [← hTransport]
    exact hHandsOut.read

end Preparing

section Storing

variable {net : Network} {server : StatementServer net} {sql : String}
  {conn conn' : Connection} {stmt : PreparedStatement}

theorem isError_of_passed {entry : Entry} (h : Passed entry) : entry.isError = false := by
  obtain ⟨message, rfl, -, hError⟩ := h
  exact hError

/-- The reply to the messages of `prepare`, where all of it is passed on a server that owes
nothing: the server has the statement, and has described it. -/
theorem stored_of_passed {t : Transport} {name : String} {taken rest : List Entry}
    {status : UInt8} (hSettled : t.Settled server.toServer)
    (hInbox : (t.deliverAll net (prepareBatch name sql)).inbox =
      taken ++ .ok (.readyForQuery status) :: rest)
    (hPassed : ∀ entry ∈ taken, Passed entry) :
    ∃ stored, server.statement (.parse name sql [] :: t.history) name = some stored ∧
      stored.sql = sql ∧ replyOf taken = .parseComplete :: stored.description := by
  let parsed := t.deliver net (.parse name sql [])
  let described := parsed.deliver net (.describe .statement name)
  have hInbox : (described.deliver net .sync).inbox =
      taken ++ .ok (.readyForQuery status) :: rest := hInbox
  have hParsed : parsed.Quiet server.toServer := hSettled.quiet.deliver rfl
  have hDescribed : described.Quiet server.toServer := hParsed.deliver rfl
  obtain ⟨entries, hDeliver, hEntries⟩ := Transport.deliver_inbox net described .sync
  have hOld : .ok (.readyForQuery status) ∉ described.inbox :=
    fun hMem => Bool.noConfusion (hDescribed.inbox _ hMem)
  obtain ⟨mid, hTaken, hMid⟩ := split_later (hDeliver.symm.trans hInbox) hOld
  obtain rfl | ⟨hOpen, rfl⟩ := hEntries
  · cases mid <;> cases hMid
  have hClean : ∀ entry ∈ described.inbox, entry.isError = false := fun entry hMem =>
    isError_of_passed (hPassed entry (hTaken ▸ List.mem_append_left _ hMem))
  obtain ⟨described', hDescribedInbox, -⟩ :=
    Transport.deliver_inbox net parsed (.describe .statement name)
  have hParsedOpen : parsed.ending = none := by
    have hClosing := hDescribed.tracked.ending.symm.trans hOpen
    rw [Transport.deliver_history] at hClosing
    exact hParsed.tracked.ending.trans (closing_cons.mp hClosing).1
  have hParsedClean : ∀ entry ∈ parsed.inbox, entry.isError = false := fun entry hMem =>
    hClean entry (hDescribedInbox ▸ List.mem_append_left _ hMem)
  -- Each of the first two messages has been answered without an error.
  obtain ⟨hAccepts, hMode, hReply, hFirst⟩ :=
    accepts_of_deliver rfl hSettled.tracked hSettled.mode hParsedOpen hParsedClean
  have hHistory : parsed.history = .parse name sql [] :: t.history :=
    Transport.deliver_history ..
  rw [← hHistory] at hMode
  obtain ⟨hAcceptsNext, hModeNext, -, hNext⟩ :=
    accepts_of_deliver rfl hParsed.tracked hMode hOpen hClean
  obtain ⟨stored, hStored, hSql⟩ := server.parsed _ _ _ _ hAccepts
  refine ⟨stored, hStored, hSql, ?_⟩
  rw [← hHistory] at hStored
  have hDescription := server.described _ _ _ hStored hAcceptsNext
  have hSync : replyOf mid = [] := by
    have hFollows := server.follows described.history .sync
    rw [show server.mode described.history = .ready from
      (congrArg server.mode (Transport.deliver_history ..)).trans hModeNext] at hFollows
    exact sync_of_clean hFollows hMid fun entry hMem =>
      isError_of_passed (hPassed entry (hTaken ▸ List.mem_append_right _ hMem))
  have hParse : replyOf (net.answer t.history (.parse name sql [])).messages =
      [.parseComplete] := by
    generalize replyOf (net.answer t.history (.parse name sql [])).messages = reply at hReply
    cases hReply
    rfl
  calc
    replyOf taken = replyOf described.inbox ++ replyOf mid := by rw [hTaken, replyOf_append]
    _ = replyOf parsed.inbox ++ stored.description := by
      rw [hSync, List.append_nil, hNext, replyOf_append, hDescription]
    _ = .parseComplete :: stored.description := by
      rw [hFirst, replyOf_append, replyOf_of_isAsync hSettled.inbox, hParse]
      rfl

/-- A statement that is handed out on a connection whose requests and replies are paired. -/
theorem stored_of_prepare (hGood : Good server.toServer conn)
    (h : prepare sql net conn = (.ok stmt, conn')) :
    ∃ stored, server.statement (.parse stmt.name sql [] :: conn.transport.posted) stmt.name =
      some stored ∧ stmt.Matches net stored := by
  obtain ⟨hIdle, -, hHandsOut⟩ := handsOut_of_prepare h
  obtain ⟨taken, status, hInbox, hLearnt, hPassed⟩ := hHandsOut.read
  have hSettled : conn.transport.Settled server.toServer := by
    cases hGood with
    | inr hBetween => exact hBetween.2 hIdle
    | inl hDead =>
        rw [hDead.answered] at hInbox
        cases taken <;> cases hInbox
  obtain ⟨stored, hStored, hSql, hReply⟩ :=
    stored_of_passed hSettled.flushed hInbox hPassed
  rw [Transport.flushed_history] at hStored
  refine ⟨stored, hStored, matches_of_description (hHandsOut.text.trans hSql.symm) ?_⟩
  rw [hLearnt, foldl_described net.typeFromOid hPassed, hReply]

end Storing

end Connection

/-- The statements that the caller holds after a call: those that have been handed out and not
been given back to be closed. -/
def Call.held (net : Network) (conn : Connection) (before : List PreparedStatement) :
    Call → List PreparedStatement
  | .operation (.prepare sql) =>
      match (prepare sql net conn).1 with
      | .ok stmt => stmt :: before
      | _ => before
  | .operation (.closeStatement stmt) => before.filter fun other => other.name ≠ stmt.name
  | _ => before

namespace Session

/-- The sessions that calls can lead to, with the statements that the caller then holds. -/
inductive Holds (net : Network) (start : Session) : Session → List PreparedStatement → Prop where
  | start : Holds net start start []
  | step {s s' : Session} {held : List PreparedStatement} {call : Call}
      {outcome : Outcome PgError Unit} (hHolds : Holds net start s held)
      (hLegible : s.Legible net call) (hStep : s.step net call = some (outcome, s'))
      (hReturned : outcome ≠ .pending) : Holds net start s' (call.held net s.conn held)

/-- The server has had the statement, and nothing that has been posted since closes it. -/
def Lasts {net : Network} (server : StatementServer net) (conn : Connection)
    (stmt : PreparedStatement) : Prop :=
  ∃ stored base later, conn.transport.posted = later ++ base ∧ stmt.name ≠ "" ∧
    server.statement base stmt.name = some stored ∧ stmt.Matches net stored ∧
    ∀ message ∈ later, message.spares stmt.name

variable {net : Network} {server : StatementServer net} {s s' : Session} {conn conn' : Connection}
  {call : Call} {outcome : Outcome PgError Unit} {stmt : PreparedStatement}
  {held : List PreparedStatement}

theorem Lasts.says (h : Lasts server conn stmt)
    (hSays : Says (fun message => message.spares stmt.name) conn.transport.posted conn') :
    Lasts server conn' stmt := by
  obtain ⟨stored, base, later, hPosted, hName, hStored, hMatches, hSpares⟩ := h
  obtain ⟨newer, hNewer, hAll⟩ := hSays
  refine ⟨stored, base, newer ++ later, ?_, hName, hStored, hMatches, ?_⟩
  · rw [hNewer, hPosted, List.append_assoc]
  · intro message hMem
    cases List.mem_append.mp hMem with
    | inl hNew => exact hAll message hNew
    | inr hOld => exact hSpares message hOld

/-- A call that does not close the statement. -/
theorem says_spares (hStep : s.step net call = some (outcome, s'))
    (hCall : ∀ other, call = .operation (.closeStatement other) → other.name ≠ stmt.name) :
    Says (fun message => message.spares stmt.name) s.conn.transport.posted s'.conn := by
  by_cases hClose : ∃ other, call = .operation (.closeStatement other)
  · obtain ⟨other, rfl⟩ := hClose
    obtain ⟨handle, conn⟩ := s
    cases handle with
    | none =>
        cases hStep
        apply says_closeStatement other ?_ conn (says_self conn)
        rintro message (rfl | hSpares)
        · exact .inr ⟨other.name, rfl, hCall other rfl⟩
        · exact .inl hSpares
    | _ => cases hStep
  · exact says_step (fun _ hSpares => .inl hSpares) (fun other h => hClose ⟨other, h⟩)
      (says_self s.conn) hStep

theorem Lasts.step (h : Lasts server s.conn stmt) (hStep : s.step net call = some (outcome, s'))
    (hStill : stmt ∈ call.held net s.conn held) :
    Lasts server s'.conn stmt := by
  refine h.says (says_spares hStep ?_)
  rintro other rfl hName
  have hKept := (List.mem_filter.mp hStill).2
  simp [hName] at hKept

/-- A statement that a call hands out. -/
theorem lasts_of_prepare {sql : String} (hGood : Good server.toServer conn)
    (h : prepare sql net conn = (.ok stmt, conn')) : Lasts server conn' stmt := by
  obtain ⟨stored, hStored, hMatches⟩ := stored_of_prepare hGood h
  obtain ⟨-, hName, hHandsOut⟩ := handsOut_of_prepare h
  refine ⟨stored, _, [.sync, .describe .statement stmt.name], hHandsOut.posted, hName, hStored,
    hMatches, ?_⟩
  simp [FrontendMessage.spares, FrontendMessage.sparesStatements]

theorem lasts_step (hHeld : Held server.toServer s.handle s.conn)
    (h : ∀ stmt ∈ held, Lasts server s.conn stmt) (hStep : s.step net call = some (outcome, s')) :
    ∀ stmt ∈ call.held net s.conn held, Lasts server s'.conn stmt := by
  intro stmt hStill
  by_cases hOld : stmt ∈ held
  · exact (h stmt hOld).step hStep hStill
  cases call with
  | operation op =>
      cases op with
      | prepare sql =>
          obtain ⟨handle, conn⟩ := s
          cases handle with
          | none =>
              cases hStep
              simp only [Call.held] at hStill
              cases hRun : prepare sql net conn with
              | mk outcome conn' =>
                  rw [hRun] at hStill
                  cases outcome with
                  | ok handedOut =>
                      obtain rfl | hOther := List.mem_cons.mp hStill
                      · have hLasts := lasts_of_prepare hHeld hRun
                        simp only [Operation.run, bind_apply, hRun]
                        exact hLasts
                      · exact absurd hOther hOld
                  | err e => exact absurd hStill hOld
                  | pending => exact absurd hStill hOld
          | _ => cases hStep
      | closeStatement other => exact absurd (List.mem_filter.mp hStill).1 hOld
      | _ => exact absurd hStill hOld
  | opening opening => exact absurd hStill hOld
  | handle handleCall => exact absurd hStill hOld

theorem lasts_of_holds (hGood : Good server.toServer conn)
    (hHolds : Holds net ⟨.none, conn⟩ s held) :
    Held server.toServer s.handle s.conn ∧ ∀ stmt ∈ held, Lasts server s.conn stmt := by
  induction hHolds with
  | start => exact ⟨hGood, by simp⟩
  | step _ hLegible hStep hReturned ih =>
      exact ⟨(kept_step ih.1 hLegible hStep hReturned).held, lasts_step ih.1 ih.2 hStep⟩

/-- Whatever calls are made, a server that is still there has every statement that the caller
holds, as the caller knows it, unless it has been given a text that discards statements. -/
theorem stored_of_holds (server : StatementServer net) (hFresh : conn.Fresh)
    (hHolds : Holds net ⟨.none, conn⟩ s held) (hMem : stmt ∈ held)
    (hOpen : net.closing (s.conn.arrival net) = none)
    (hTexts : ∀ sql ∈ (s.conn.arrival net).filterMap FrontendMessage.text?,
      ¬ server.Discards sql) :
    ∃ stored, server.statement (s.conn.arrival net) stmt.name = some stored ∧
      stmt.Matches net stored := by
  obtain ⟨stored, base, later, hPosted, hName, hStored, hMatches, hSpares⟩ :=
    (lasts_of_holds hFresh.good hHolds).2 stmt hMem
  have hArrival : s.conn.arrival net = later ++ base := (arrival_eq net s.conn).trans hPosted
  rw [hArrival] at hOpen hTexts ⊢
  exact ⟨stored, server.statement_append hStored hName hOpen hSpares hTexts, hMatches⟩

end Session

namespace StatementTable

def firstStatement : PreparedStatement := ⟨"__pg_stmt_1", "SELECT 1", [], []⟩

def secondStatement : PreparedStatement := ⟨"__pg_stmt_2", "SELECT 2", [], []⟩

def onePrepared : Connection := (prepare "SELECT 1" network .new).2

def twoPrepared : Connection := (prepare "SELECT 2" network onePrepared).2

def firstClosed : Connection := (closeStatement firstStatement network twoPrepared).2

/-- Two statements are prepared, and the first is closed. -/
theorem stored_of_holds_firstClosed :
    ∃ stored, server.statement (firstClosed.arrival network) secondStatement.name = some stored ∧
      secondStatement.Matches network stored := by
  have hFirst : Session.step network ⟨.none, .new⟩ (.operation (.prepare "SELECT 1")) =
      some (.ok (), ⟨.none, onePrepared⟩) := rfl
  have hSecond : Session.step network ⟨.none, onePrepared⟩ (.operation (.prepare "SELECT 2")) =
      some (.ok (), ⟨.none, twoPrepared⟩) := rfl
  have hClose : Session.step network ⟨.none, twoPrepared⟩
      (.operation (.closeStatement firstStatement)) = some (.ok (), ⟨.none, firstClosed⟩) := rfl
  have hOne : Session.Holds network ⟨.none, .new⟩ ⟨.none, onePrepared⟩ [firstStatement] :=
    @Session.Holds.step network _ _ _ _ (.operation (.prepare "SELECT 1")) _ .start trivial
      hFirst (by simp)
  have hTwo : Session.Holds network ⟨.none, .new⟩ ⟨.none, twoPrepared⟩
      [secondStatement, firstStatement] :=
    @Session.Holds.step network _ _ _ _ (.operation (.prepare "SELECT 2")) _ hOne trivial
      hSecond (by simp)
  have hLeft : Session.Holds network ⟨.none, .new⟩ ⟨.none, firstClosed⟩ [secondStatement] :=
    @Session.Holds.step network _ _ _ _ (.operation (.closeStatement firstStatement)) _ hTwo
      trivial hClose (by simp)
  have hTexts : (firstClosed.arrival network).filterMap FrontendMessage.text? =
      ["SELECT 2", "SELECT 1"] := rfl
  have hKept : ∀ sql ∈ (firstClosed.arrival network).filterMap FrontendMessage.text?,
      ¬ discards sql := by
    rw [hTexts]
    decide
  exact Session.stored_of_holds server ⟨rfl, rfl⟩ hLeft (by simp) (closing _) hKept

end StatementTable
end PgClient
