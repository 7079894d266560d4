import PgClient.Transport.Buffered

/-!
Servers that follow the wire protocol: what they may answer to each message, in which
mode they are afterwards, and what has come from them after a history of messages.
-/

namespace PgClient

/-- What a server does with the next message. -/
inductive Mode where
  | ready
  | skipping
  | copyIn
  | copyInExtended
deriving DecidableEq, Repr

namespace FrontendMessage

def isCopy : FrontendMessage → Bool
  | .copyData _ | .copyDone | .copyFail _ => true
  | _ => false

/-- The messages that ask for a `ReadyForQuery`. -/
def asksReady : FrontendMessage → Bool
  | .query _ | .sync => true
  | _ => false

/-- The messages of a connection that is being set up. -/
def isStartup : FrontendMessage → Bool
  | .startup _ | .sslRequest | .cancelRequest _ _ | .passwordMessage _
  | .saslInitialResponse _ _ | .saslResponse _ => true
  | _ => false

end FrontendMessage

/-- Rows under their description. -/
structure ResultSet where
  fields : Except IoError (List Field)
  rows : List (Except IoError (List (Option Bytes)))

def ResultSet.messages (set : ResultSet) : List BackendMessage :=
  .rowDescription set.fields :: set.rows.map .dataRow

/-- The whole answer to one statement of a simple query. -/
inductive StatementReply : List BackendMessage → Prop where
  | complete (sets : List ResultSet) (tag : Option String) :
      StatementReply (sets.flatMap ResultSet.messages ++ [.commandComplete tag])
  | copyOut (body : CopyResponseBody) (chunks : List Bytes) (tag : Option String) :
      StatementReply (.copyOutResponse body :: chunks.map .copyData ++
        [.copyDone, .commandComplete tag])

/-- What is left of the answer to a simple query between two of its statements. -/
inductive SimpleReply : List BackendMessage → Mode → Prop where
  | ready (status : UInt8) : SimpleReply [.readyForQuery status] .ready
  | statement {reply rest : List BackendMessage} {mode : Mode} (hReply : StatementReply reply)
      (hRest : SimpleReply rest mode) : SimpleReply (reply ++ rest) mode
  | error {reply begun : List BackendMessage} (hReply : StatementReply reply)
      (hBegun : begun <+: reply) (body : ErrorBody) (status : UInt8) :
      SimpleReply (begun ++ [.errorResponse body, .readyForQuery status]) .ready
  | copyIn (body : CopyResponseBody) : SimpleReply [.copyInResponse body] .copyIn
  | copyInError (response : CopyResponseBody) (body : ErrorBody) (status : UInt8) :
      SimpleReply [.copyInResponse response, .errorResponse body, .readyForQuery status] .ready

/-- The answers to the messages of the extended protocol when nothing goes wrong. -/
inductive ExtendedReply : FrontendMessage → List BackendMessage → Mode → Prop where
  | parse (name sql : String) (types : List Oid) :
      ExtendedReply (.parse name sql types) [.parseComplete] .ready
  | bind (portal statement : String) (paramFormats resultFormats : List FormatCode)
      (params : List (Option Bytes)) :
      ExtendedReply (.bind portal statement paramFormats params resultFormats)
        [.bindComplete] .ready
  | describeStatement (name : String) (types : Except IoError (List Oid))
      (fields : Except IoError (List Field)) :
      ExtendedReply (.describe .statement name)
        [.parameterDescription types, .rowDescription fields] .ready
  | describeCommand (name : String) (types : Except IoError (List Oid)) :
      ExtendedReply (.describe .statement name) [.parameterDescription types, .noData] .ready
  | describePortal (name : String) (fields : Except IoError (List Field)) :
      ExtendedReply (.describe .portal name) [.rowDescription fields] .ready
  | describeNoData (name : String) : ExtendedReply (.describe .portal name) [.noData] .ready
  | complete (portal : String) (maxRows : Int32)
      (rows : List (Except IoError (List (Option Bytes)))) (tag : Option String) :
      ExtendedReply (.execute portal maxRows) (rows.map .dataRow ++ [.commandComplete tag]) .ready
  | suspended (portal : String) (maxRows : Int32)
      (rows : List (Except IoError (List (Option Bytes)))) (hRows : maxRows ≠ 0) :
      ExtendedReply (.execute portal maxRows) (rows.map .dataRow ++ [.portalSuspended]) .ready
  | emptyQuery (portal : String) (maxRows : Int32) :
      ExtendedReply (.execute portal maxRows) [.emptyQueryResponse] .ready
  | copyOut (portal : String) (maxRows : Int32) (body : CopyResponseBody) (chunks : List Bytes)
      (tag : Option String) :
      ExtendedReply (.execute portal maxRows)
        (.copyOutResponse body :: chunks.map .copyData ++ [.copyDone, .commandComplete tag]) .ready
  | copyIn (portal : String) (maxRows : Int32) (body : CopyResponseBody) :
      ExtendedReply (.execute portal maxRows) [.copyInResponse body] .copyInExtended
  | close (variant : Variant) (name : String) :
      ExtendedReply (.close variant name) [.closeComplete] .ready

/-- What a server in a mode answers to a message, asynchronous messages left out, and
its mode afterwards. -/
inductive Reply : Mode → FrontendMessage → List BackendMessage → Mode → Prop where
  | query (sql : String) {reply : List BackendMessage} {mode : Mode}
      (hReply : SimpleReply reply mode) (hSome : ∀ status, reply ≠ [.readyForQuery status]) :
      Reply .ready (.query sql) reply mode
  | emptyQuery (sql : String) (status : UInt8) :
      Reply .ready (.query sql) [.emptyQueryResponse, .readyForQuery status] .ready
  | extended {message : FrontendMessage} {reply : List BackendMessage} {mode : Mode}
      (hReply : ExtendedReply message reply mode) : Reply .ready message reply mode
  | extendedError {message : FrontendMessage} {reply begun : List BackendMessage} {mode : Mode}
      (hReply : ExtendedReply message reply mode) (hBegun : begun <+: reply) (body : ErrorBody) :
      Reply .ready message (begun ++ [.errorResponse body]) .skipping
  | sync (status : UInt8) : Reply .ready .sync [.readyForQuery status] .ready
  | syncError (body : ErrorBody) (status : UInt8) :
      Reply .ready .sync [.errorResponse body, .readyForQuery status] .ready
  | flush : Reply .ready .flush [] .ready
  | lateCopy {message : FrontendMessage} (hCopy : message.isCopy) : Reply .ready message [] .ready
  | skip {message : FrontendMessage} (hSkip : message ≠ .sync) :
      Reply .skipping message [] .skipping
  | resync (status : UInt8) : Reply .skipping .sync [.readyForQuery status] .ready
  | copyData (mode : Mode) (hMode : mode = .copyIn ∨ mode = .copyInExtended) (data : Bytes) :
      Reply mode (.copyData data) [] mode
  | copyIgnored (mode : Mode) (hMode : mode = .copyIn ∨ mode = .copyInExtended)
      {message : FrontendMessage} (hIgnored : message = .sync ∨ message = .flush) :
      Reply mode message [] mode
  | copyDone (tag : Option String) {rest : List BackendMessage} {mode : Mode}
      (hRest : SimpleReply rest mode) : Reply .copyIn .copyDone (.commandComplete tag :: rest) mode
  | copyDoneExtended (tag : Option String) :
      Reply .copyInExtended .copyDone [.commandComplete tag] .ready
  | copyError {message : FrontendMessage} (hKnown : message ≠ .sync ∧ message ≠ .flush)
      (body : ErrorBody) (status : UInt8) :
      Reply .copyIn message [.errorResponse body, .readyForQuery status] .ready
  | copyErrorExtended {message : FrontendMessage} (hKnown : message ≠ .sync ∧ message ≠ .flush)
      (body : ErrorBody) : Reply .copyInExtended message [.errorResponse body] .skipping
  | terminate (mode : Mode) : Reply mode .terminate [] mode
  | refused (mode : Mode) {message : FrontendMessage} (hStartup : message.isStartup)
      (body : ErrorBody) : Reply mode message [.errorResponse body] .ready

namespace Entry

def isAsync : Entry → Bool
  | .ok message => message.isAsync
  | .error _ => false

def isReady : Entry → Bool
  | .ok message => message.isReady
  | .error _ => false

def wellFormed : Entry → Bool
  | .ok message => message.wellFormed
  | .error _ => false

end Entry

/-- Everything the server sends can be read and parsed. -/
def Network.WellFormed (net : Network) : Prop :=
  ∀ history message, ∀ entry ∈ (net.answer history message).messages, entry.wellFormed

/-- The messages among entries that belong to replies. -/
def replyOf (entries : List Entry) : List BackendMessage :=
  (entries.filterMap Except.toOption).filter fun message => !message.isAsync

/-- No message ends a reply. -/
def NoReady (messages : List BackendMessage) : Prop := ∀ message ∈ messages, message.isReady = false

@[simp] theorem noReady_nil : NoReady [] := by simp [NoReady]

@[simp] theorem noReady_cons (message : BackendMessage) (messages : List BackendMessage) :
    NoReady (message :: messages) ↔ message.isReady = false ∧ NoReady messages := by
  simp [NoReady]

@[simp] theorem noReady_append (first later : List BackendMessage) :
    NoReady (first ++ later) ↔ NoReady first ∧ NoReady later := by
  simp [NoReady, or_imp, forall_and]

@[simp] theorem noReady_rows (rows : List (Except IoError (List (Option Bytes)))) :
    NoReady (rows.map .dataRow) := by
  simp [NoReady, BackendMessage.isReady]

@[simp] theorem noReady_chunks (chunks : List Bytes) : NoReady (chunks.map .copyData) := by
  simp [NoReady, BackendMessage.isReady]

theorem noReady_prefix {begun reply : List BackendMessage} (hBegun : begun <+: reply)
    (h : NoReady reply) : NoReady begun :=
  fun message hMem => h message (hBegun.subset hMem)

/-- An answer is a reply with asynchronous messages anywhere in it and read errors
anywhere before its end. A server that closes the connection stops short of the
`ReadyForQuery`; what happens after that counts to the next answer. -/
structure Answer.Follows (answer : Answer) (mode : Mode) (message : FrontendMessage)
    (next : Mode) : Prop where
  reply : ∃ reply, Reply mode message reply next ∧ replyOf answer.messages <+: reply ∧
    (answer.closes = none → replyOf answer.messages = reply)
  closing : answer.closes ≠ none → NoReady (replyOf answer.messages)
  errors : ∀ pre e post, answer.messages = pre ++ .error e :: post → replyOf post ≠ []

/-- A reply without anything else is an answer. -/
theorem Answer.follows_of_reply {answer : Answer} {reply : List BackendMessage} {mode next : Mode}
    {message : FrontendMessage}
    (hAnswer : answer = { messages := reply.map .ok, closes := none })
    (hReply : Reply mode message reply next) (hReplyOf : replyOf (reply.map .ok) = reply) :
    answer.Follows mode message next := by
  subst hAnswer
  refine ⟨⟨reply, hReply, ?_, ?_⟩, ?_, ?_⟩
  · simp only [hReplyOf, List.prefix_rfl]
  · exact fun _ => hReplyOf
  · exact fun hCloses => absurd rfl hCloses
  · intro pre e post hSplit
    have hMem : Except.error e ∈ pre ++ .error e :: post :=
      List.mem_append_right pre List.mem_cons_self
    rw [← hSplit, List.mem_map] at hMem
    obtain ⟨_, _, hOk⟩ := hMem
    cases hOk

/-- A server that follows the protocol, known by its mode after each history. -/
structure Server (net : Network) where
  mode : List FrontendMessage → Mode
  mode_nil : mode [] = .ready
  follows : ∀ history message,
    (net.answer history message).Follows (mode history) message (mode (message :: history))

/-- A `ReadyForQuery` is the last message of a reply and leaves the server ready. -/
def ReadyLast (reply : List BackendMessage) (mode : Mode) : Prop :=
  NoReady reply ∨
    ∃ body status, reply = body ++ [.readyForQuery status] ∧ NoReady body ∧ mode = .ready

theorem StatementReply.noReady {reply : List BackendMessage} (h : StatementReply reply) :
    NoReady reply := by
  cases h with
  | complete sets tag =>
      rw [noReady_append]
      refine ⟨?_, by simp [BackendMessage.isReady]⟩
      intro message hMem
      obtain ⟨set, _, hMem⟩ := List.mem_flatMap.mp hMem
      simp only [ResultSet.messages, List.mem_cons, List.mem_map] at hMem
      obtain rfl | ⟨_, _, rfl⟩ := hMem <;> rfl
  | copyOut body chunks tag => simp [BackendMessage.isReady]

theorem SimpleReply.readyLast {reply : List BackendMessage} {mode : Mode}
    (h : SimpleReply reply mode) : ReadyLast reply mode := by
  induction h with
  | ready status => exact .inr ⟨[], status, rfl, noReady_nil, rfl⟩
  | statement hReply _ ih =>
      cases ih with
      | inl hRest => exact .inl ((noReady_append ..).mpr ⟨hReply.noReady, hRest⟩)
      | inr hRest =>
          obtain ⟨body, status, rfl, hBody, hMode⟩ := hRest
          exact .inr ⟨_, status, (List.append_assoc ..).symm,
            (noReady_append ..).mpr ⟨hReply.noReady, hBody⟩, hMode⟩
  | @error _ begun hReply hBegun body status =>
      have hBegun := noReady_prefix hBegun hReply.noReady
      exact .inr ⟨begun ++ [.errorResponse body], status, by simp,
        by simpa [BackendMessage.isReady] using hBegun, rfl⟩
  | copyIn body => exact .inl (by simp [BackendMessage.isReady])
  | copyInError response body status =>
      exact .inr ⟨[.copyInResponse response, .errorResponse body], status, rfl,
        by simp [BackendMessage.isReady], rfl⟩

theorem ExtendedReply.noReady {message : FrontendMessage} {reply : List BackendMessage}
    {mode : Mode} (h : ExtendedReply message reply mode) : NoReady reply ∧ mode ≠ .copyIn := by
  cases h <;> simp [BackendMessage.isReady]

theorem ExtendedReply.error_noReady {message : FrontendMessage}
    {reply begun : List BackendMessage} {mode : Mode} (h : ExtendedReply message reply mode)
    (hBegun : begun <+: reply) (body : ErrorBody) : NoReady (begun ++ [.errorResponse body]) := by
  have hBegun := noReady_prefix hBegun h.noReady.1
  simpa [BackendMessage.isReady] using hBegun

theorem Reply.readyLast {mode next : Mode} {message : FrontendMessage}
    {reply : List BackendMessage} (h : Reply mode message reply next) : ReadyLast reply next := by
  cases h with
  | query _ hReply _ => exact hReply.readyLast
  | emptyQuery _ status =>
      exact .inr ⟨[.emptyQueryResponse], status, rfl, by simp [BackendMessage.isReady], rfl⟩
  | extended hReply => exact .inl hReply.noReady.1
  | extendedError hReply hBegun body => exact .inl (hReply.error_noReady hBegun body)
  | sync status | resync status => exact .inr ⟨[], status, rfl, noReady_nil, rfl⟩
  | syncError body status | copyError _ body status =>
      exact .inr ⟨[.errorResponse body], status, rfl, by simp [BackendMessage.isReady], rfl⟩
  | copyDone tag hRest =>
      cases hRest.readyLast with
      | inl hRest => exact .inl (by simpa [BackendMessage.isReady] using hRest)
      | inr hRest =>
          obtain ⟨body, status, rfl, hBody, hMode⟩ := hRest
          exact .inr ⟨.commandComplete tag :: body, status, rfl,
            by simpa [BackendMessage.isReady] using hBody, hMode⟩
  | flush | lateCopy | skip | copyData | copyIgnored | copyDoneExtended | copyErrorExtended
  | terminate | refused => exact .inl (by simp [BackendMessage.isReady])

/-- Outside a COPY of a simple query only a Query or a Sync brings a `ReadyForQuery`. -/
theorem Reply.noReady {mode next : Mode} {message : FrontendMessage}
    {reply : List BackendMessage} (h : Reply mode message reply next) (hMode : mode ≠ .copyIn)
    (hAsks : message.asksReady = false) : NoReady reply ∧ next ≠ .copyIn := by
  cases h with
  | query | emptyQuery | sync | syncError | resync => cases hAsks
  | extended hReply => exact hReply.noReady
  | extendedError hReply hBegun body => exact ⟨hReply.error_noReady hBegun body, by simp⟩
  | copyDone | copyError => exact absurd rfl hMode
  | flush | lateCopy | skip | copyData | copyIgnored | copyDoneExtended | copyErrorExtended
  | terminate | refused => exact ⟨by simp [BackendMessage.isReady], by first | exact hMode | simp⟩

/-- COPY messages that arrive after their COPY has ended are dropped. -/
theorem Reply.lateCopy_eq {next : Mode} {message : FrontendMessage}
    {reply : List BackendMessage} (h : Reply .ready message reply next)
    (hCopy : message.isCopy) : reply = [] ∧ next = .ready := by
  cases h with
  | lateCopy => exact ⟨rfl, rfl⟩
  | extended hReply | extendedError hReply => cases hReply <;> cases hCopy
  | copyData mode hMode | copyIgnored mode hMode => cases hMode <;> contradiction
  | refused mode hStartup => cases message <;> cases hStartup <;> cases hCopy
  | query | emptyQuery | sync | syncError | flush | terminate => cases hCopy

theorem SimpleReply.ready_mem {reply : List BackendMessage}
    (h : SimpleReply reply .ready) : ¬ NoReady reply := by
  generalize hMode : Mode.ready = mode at h
  induction h with
  | statement _ _ ih => simp [ih hMode]
  | copyIn => cases hMode
  | ready | error | copyInError => simp [BackendMessage.isReady]

/-- A Query or a Sync that leaves the server ready was answered with a `ReadyForQuery`. -/
theorem Reply.asked {mode : Mode} {message : FrontendMessage} {reply : List BackendMessage}
    (h : Reply mode message reply .ready) (hMode : mode ≠ .copyIn)
    (hAsks : message.asksReady) : ¬ NoReady reply := by
  generalize hNext : Mode.ready = next at h
  cases h with
  | query _ hReply _ =>
      subst hNext
      exact hReply.ready_mem
  | emptyQuery | sync | syncError | resync => simp [BackendMessage.isReady]
  | extended hReply | extendedError hReply => cases hReply <;> cases hAsks
  | copyDone | copyError => exact absurd rfl hMode
  | skip | copyErrorExtended => cases hNext
  | refused mode hStartup => cases message <;> cases hStartup <;> cases hAsks
  | copyIgnored mode hKind =>
      subst hNext
      cases hKind <;> contradiction
  | flush | copyData | copyDoneExtended | terminate => cases hAsks
  | lateCopy hCopy => cases message <;> cases hCopy <;> cases hAsks

end PgClient
