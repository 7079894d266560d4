import PgClient.Auth.Spoken

/-!
The conversations that authentication can have, whatever the server sends: passwords only
where they are allowed, and SASL exchanges which, where authentication succeeds, were all
finished by a server-final message that the library accepted.
-/

namespace PgClient
namespace Auth

variable {Scram : Type}

/-- A SASL exchange as it begins over the mechanisms that the server offers. -/
structure Begins (peer : Peer Scram) (config : Config) (mechanisms : List String)
    (selected : SelectedScramMechanism) (scram : Scram) : Prop where
  choice : selectScramMechanism peer.tlsServerEndPoint mechanisms = .ok selected
  made : ∃ nonce password, config.password = some password ∧
    scram = peer.library.new nonce (asBytes password) selected.channelBinding

def offers (mechanisms : List String) : Said :=
  .received (.ok (.authentication (.sasl (.ok mechanisms))))

def begins (peer : Peer Scram) (selected : SelectedScramMechanism) (scram : Scram) : Said :=
  .sent (.saslInitialResponse selected.mechanism (peer.library.message scram))

/-- The messages after the first of an exchange that is finished. -/
def Finishes (peer : Peer Scram) (scram : Scram) (said : List Said) : Prop :=
  ∃ serverFirst scram' serverFinal, peer.library.update scram serverFirst = .ok scram' ∧
    peer.library.finish scram' serverFinal = .ok () ∧
    said = [.received (.ok (.authentication (.saslContinue serverFirst))),
      .sent (.saslResponse (peer.library.message scram')),
      .received (.ok (.authentication (.saslFinal serverFinal)))]

/-- Nothing is sent but the response. -/
def OnlyResponds (said : List Said) : Prop :=
  ∀ message ∈ said.filterMap Said.message?, ∃ data, message = .saslResponse data

/-- What is said in an authentication; `true` where the server has accepted the client. -/
inductive Conversation (peer : Peer Scram) (config : Config) : Bool → List Said → Prop
  | accepted (later : List Said) (hLater : later.filterMap Said.message? = []) :
      Conversation peer config true (.received (.ok (.authentication .ok)) :: later)
  | ended (said : List Said) (hSaid : said.filterMap Said.message? = []) :
      Conversation peer config false said
  | password (request : AuthenticationRequest) (password : Bytes)
      (hAllowed : peer.isSecure ∨ config.allowInsecureAuth) {accepted : Bool} {rest : List Said}
      (hRest : Conversation peer config accepted rest) :
      Conversation peer config accepted
        (.received (.ok (.authentication request)) :: .sent (.passwordMessage password) :: rest)
  | exchange {mechanisms : List String} {selected : SelectedScramMechanism} {scram : Scram}
      (hBegins : Begins peer config mechanisms selected scram) {said : List Said}
      (hSaid : Finishes peer scram said) {accepted : Bool} {rest : List Said}
      (hRest : Conversation peer config accepted rest) :
      Conversation peer config accepted
        (offers mechanisms :: begins peer selected scram :: (said ++ rest))
  | exchangeEnded {mechanisms : List String} {selected : SelectedScramMechanism} {scram : Scram}
      (hBegins : Begins peer config mechanisms selected scram) (said : List Said)
      (hSaid : OnlyResponds said) :
      Conversation peer config false (offers mechanisms :: begins peer selected scram :: said)

/-- What a call says that may end an authentication. -/
def Converses (peer : Peer Scram) (config : Config) {α : Type} (outcome : Outcome AuthError α)
    (said : List Said) : Prop :=
  ∃ accepted, Conversation peer config accepted said ∧ ((∃ a, outcome = .ok a) → accepted = true)

section Runs

variable {peer : Peer Scram} {config : Config} {α : Type}

theorem converses_ended {outcome : Outcome AuthError α} {said : List Said}
    (hSaid : said.filterMap Said.message? = []) (hOutcome : ∀ a, outcome ≠ .ok a) :
    Converses peer config outcome said :=
  ⟨false, .ended said hSaid, fun ⟨a, h⟩ => absurd h (hOutcome a)⟩

theorem says_serverError (body : ErrorBody) :
    Says peer (serverError body : Startup Scram α) fun outcome said =>
      said = [] ∧ ∀ a, outcome ≠ .ok a :=
  says_lift_bind (fun _ _ => says_fail ⟨rfl, by simp⟩) fun _ _ => ⟨rfl, by simp⟩

/-- The one message that has to come now, or no message is said any more. -/
theorem says_saslData (data : BackendMessage → Option Bytes) :
    Says peer (saslData data : Startup Scram Bytes) fun outcome said =>
      said.filterMap Said.message? = [] ∧
        ∀ d, outcome = .ok d → ∃ message, data message = some d ∧
          said = [.received (.ok message)] := by
  refine says_readMessage.bind (fun message said h => ?_) (fun e said h => ⟨h, by simp⟩)
    fun said h => ⟨h, by simp⟩
  dsimp only at h
  subst h
  cases hData : data message with
  | some d =>
      exact says_pure ⟨rfl, fun d' h => ⟨message, by rw [hData]; cases h; rfl, rfl⟩⟩
  | none =>
      have hFail : ∀ e : AuthError, Says peer (Async.fail e : Startup Scram Bytes)
          fun outcome later => ([Said.received (.ok message)] ++ later).filterMap Said.message? =
            [] ∧
            ∀ d, outcome = .ok d → ∃ message', data message' = some d ∧
              [Said.received (.ok message)] ++ later = [.received (.ok message')] :=
        fun e => says_fail ⟨rfl, by simp⟩
      cases message with
      | errorResponse body =>
          refine (says_serverError body).mono fun outcome later h => ?_
          obtain ⟨rfl, hNot⟩ := h
          exact ⟨rfl, fun d hOk => absurd hOk (hNot d)⟩
      | _ => exact hFail .unexpectedMessage

theorem continueData_eq {message : BackendMessage} {data : Bytes}
    (h : continueData message = some data) : message = .authentication (.saslContinue data) := by
  simp only [continueData] at h
  split at h
  · cases h
    rfl
  · cases h

theorem finalData_eq {message : BackendMessage} {data : Bytes}
    (h : finalData message = some data) : message = .authentication (.saslFinal data) := by
  simp only [finalData] at h
  split at h
  · cases h
    rfl
  · cases h

theorem onlyResponds_of_silent {said : List Said} (h : said.filterMap Said.message? = []) :
    OnlyResponds said := by
  simp [OnlyResponds, h]

/-- What comes after the client-first message. -/
theorem says_finish (scram : Scram) :
    Says peer (do
        let serverFirst ← saslData continueData
        let scram ← .lift ((peer.library.update scram serverFirst).mapError .scram)
        send (.saslResponse (peer.library.message scram))
        let serverFinal ← saslData finalData
        .lift ((peer.library.finish scram serverFinal).mapError .scram))
      fun outcome said => Finishes peer scram said ∨ outcome ≠ .ok () ∧ OnlyResponds said := by
  refine (says_saslData continueData).bind (fun serverFirst said h => ?_)
    (fun e said h => Or.inr ⟨by simp, onlyResponds_of_silent h.1⟩)
    fun said h => Or.inr ⟨by simp, onlyResponds_of_silent h.1⟩
  obtain ⟨first, hFirst, rfl⟩ := h.2 serverFirst rfl
  cases continueData_eq hFirst
  refine says_lift_bind (fun scram' hUpdate => ?_) fun e _ =>
    Or.inr ⟨by simp, onlyResponds_of_silent rfl⟩
  have hUpdate : peer.library.update scram serverFirst = .ok scram' := by
    cases hResult : peer.library.update scram serverFirst <;> rw [hResult] at hUpdate <;>
      cases hUpdate
    rfl
  have hResponse : ∀ later, later.filterMap Said.message? = [] →
      OnlyResponds ([.received (.ok (.authentication (.saslContinue serverFirst)))] ++
        ([.sent (.saslResponse (peer.library.message scram'))] ++ later)) := by
    intro later hLater
    simp [OnlyResponds, List.filterMap_cons, Said.message?, hLater]
  refine (says_send _).bind (fun _ said h => ?_) (fun e said h => ?_) fun said h => ?_
  · obtain rfl | ⟨_, hNot⟩ := h
    · refine (says_saslData finalData).bind (fun serverFinal said h => ?_)
        (fun e said h => Or.inr ⟨by simp, hResponse said h.1⟩)
        fun said h => Or.inr ⟨by simp, hResponse said h.1⟩
      obtain ⟨last, hLast, rfl⟩ := h.2 serverFinal rfl
      cases finalData_eq hLast
      cases hFinish : peer.library.finish scram' serverFinal with
      | ok _ =>
          exact says_pure (Or.inl ⟨serverFirst, scram', serverFinal, hUpdate, hFinish, rfl⟩)
      | error e => exact says_fail (Or.inr ⟨by simp, hResponse [_] rfl⟩)
    · exact absurd rfl hNot
  · obtain rfl | ⟨rfl, _⟩ := h
    · exact Or.inr ⟨by simp, hResponse [] rfl⟩
    · exact Or.inr ⟨by simp, onlyResponds_of_silent rfl⟩
  · obtain rfl | ⟨rfl, _⟩ := h
    · exact Or.inr ⟨by simp, hResponse [] rfl⟩
    · exact Or.inr ⟨by simp, onlyResponds_of_silent rfl⟩

/-- An exchange that is not finished fails, and one that is not begun says nothing. -/
theorem says_scramAuth (mechanisms : List String) :
    Says peer (scramAuth config mechanisms : Startup Scram Unit) fun outcome said =>
      (∃ selected scram said', Begins peer config mechanisms selected scram ∧
        said = begins peer selected scram :: said' ∧
        (Finishes peer scram said' ∨ outcome ≠ .ok () ∧ OnlyResponds said')) ∨
      said = [] ∧ outcome ≠ .ok () := by
  cases hPassword : config.password with
  | none =>
      simp only [scramAuth, password, hPassword]
      exact fun t => ⟨[], .refl _ t, Or.inr ⟨rfl, by simp⟩⟩
  | some pw =>
      simp only [scramAuth, password, hPassword, pure_bind]
      refine says_env_bind (says_lift_bind (fun selected hSelected => ?_) fun e _ =>
        Or.inr ⟨rfl, by simp⟩)
      refine says_get_bind fun t => ?_
      generalize hScram : peer.library.new (peer.nonce t.history) (asBytes pw)
        selected.channelBinding = scram
      have hBegins : Begins peer config mechanisms selected scram :=
        ⟨hSelected, _, pw, hPassword, hScram.symm⟩
      refine (says_send _).bind (fun _ said h => ?_) (fun e said h => ?_) fun said h => ?_
      · obtain rfl | ⟨_, hNot⟩ := h
        · exact (says_finish scram).mono fun outcome said' h =>
            Or.inl ⟨selected, scram, said', hBegins, rfl, h⟩
        · exact absurd rfl hNot
      · obtain rfl | ⟨rfl, _⟩ := h
        · exact Or.inl ⟨selected, scram, [], hBegins, rfl,
            Or.inr ⟨by simp, onlyResponds_of_silent rfl⟩⟩
        · exact Or.inr ⟨rfl, by simp⟩
      · obtain rfl | ⟨rfl, _⟩ := h
        · exact Or.inl ⟨selected, scram, [], hBegins, rfl,
            Or.inr ⟨by simp, onlyResponds_of_silent rfl⟩⟩
        · exact Or.inr ⟨rfl, by simp⟩

/-- A conversation that goes on after one more password. -/
theorem converses_password (request : AuthenticationRequest) (message : FrontendMessage)
    (hMessage : ∃ password, message = .passwordMessage password)
    (hAllowed : peer.isSecure ∨ config.allowInsecureAuth) {k : Startup Scram Unit}
    (hk : Says peer k (Converses peer config)) :
    Says peer (do send message; k) fun outcome said =>
      Converses peer config outcome ([.received (.ok (.authentication request))] ++ said) := by
  obtain ⟨password, rfl⟩ := hMessage
  have hNext : ∀ {outcome : Outcome AuthError Unit} {said : List Said},
      Converses peer config outcome said → Converses peer config outcome
        ([.received (.ok (.authentication request))] ++
          ([.sent (.passwordMessage password)] ++ said)) :=
    fun ⟨accepted, hSaid, hOk⟩ => ⟨accepted, .password request password hAllowed hSaid, hOk⟩
  refine (says_send _).bind (fun _ said h => ?_) (fun e said h => ?_) fun said h => ?_
  · obtain rfl | ⟨_, hNot⟩ := h
    · exact hk.mono fun _ _ => hNext
    · exact absurd rfl hNot
  · obtain rfl | ⟨rfl, _⟩ := h
    · exact @hNext _ [] (converses_ended rfl (by simp))
    · exact converses_ended rfl (by simp)
  · obtain rfl | ⟨rfl, _⟩ := h
    · exact @hNext _ [] (converses_ended rfl (by simp))
    · exact converses_ended rfl (by simp)

/-- An exchange after which authentication does not go on. -/
theorem converses_exchange {mechanisms : List String} {ended : Outcome AuthError Unit}
    {said : List Said} {outcome : Outcome AuthError α} (hOutcome : ∀ a, outcome ≠ .ok a)
    (h : (∃ selected scram said', Begins peer config mechanisms selected scram ∧
        said = begins peer selected scram :: said' ∧
        (Finishes peer scram said' ∨ ended ≠ .ok () ∧ OnlyResponds said')) ∨
      said = [] ∧ ended ≠ .ok ()) :
    Converses peer config outcome ([offers mechanisms] ++ said) := by
  refine ⟨false, ?_, fun ⟨a, hOk⟩ => absurd hOk (hOutcome a)⟩
  obtain ⟨selected, scram, said', hBegins, rfl, hFinishes | ⟨_, hResponds⟩⟩ | ⟨rfl, _⟩ := h
  · simpa using Conversation.exchange hBegins hFinishes (.ended [] rfl)
  · exact .exchangeEnded hBegins said' hResponds
  · exact .ended _ rfl

theorem allowed_of_not_refused (h : ¬ (!peer.isSecure && !config.allowInsecureAuth) = true) :
    peer.isSecure ∨ config.allowInsecureAuth := by
  revert h
  cases peer.isSecure <;> cases config.allowInsecureAuth <;> simp

/-- By induction on the requests: every request is a step of the conversation. -/
theorem says_authenticateLoop (requests : Nat) :
    Says peer (authenticateLoop config requests : Startup Scram Unit) (Converses peer config) := by
  induction requests with
  | zero => exact says_wait (converses_ended rfl (by simp))
  | succ requests ih =>
      refine says_readMessage.bind (fun message said h => ?_)
        (fun e said h => converses_ended h (by simp)) fun said h => converses_ended h (by simp)
      dsimp only at h
      subst h
      have hUnexpected : ∀ e : AuthError, Says peer (Async.fail e : Startup Scram Unit)
          fun outcome later => Converses peer config outcome ([.received (.ok message)] ++ later) :=
        fun e => says_fail (converses_ended rfl (by simp))
      cases message with
      | authentication request =>
          cases request with
          | ok => exact says_pure ⟨true, .accepted [] rfl, fun _ => rfl⟩
          | cleartextPassword =>
              refine says_env_bind (says_failIf_bind (fun hAllowed => ?_)
                (converses_ended rfl (by simp)))
              cases hPassword : config.password with
              | none =>
                  simp only [cleartextAuth, password, hPassword]
                  exact fun t => ⟨[], .refl _ t, converses_ended rfl (by simp)⟩
              | some pw =>
                  simp only [cleartextAuth, password, hPassword, pure_bind]
                  exact converses_password _ _ ⟨_, rfl⟩ (allowed_of_not_refused hAllowed) ih
          | md5Password salt =>
              refine says_env_bind (says_failIf_bind (fun hAllowed => ?_)
                (converses_ended rfl (by simp)))
              cases hPassword : config.password with
              | none =>
                  simp only [md5Auth, password, hPassword]
                  exact fun t => ⟨[], .refl _ t, converses_ended rfl (by simp)⟩
              | some pw =>
                  simp only [md5Auth, password, hPassword, pure_bind, bind_assoc]
                  exact says_env_bind
                    (converses_password _ _ ⟨_, rfl⟩ (allowed_of_not_refused hAllowed) ih)
          | sasl mechanisms =>
              cases mechanisms with
              | error e =>
                  exact says_lift_bind (fun _ h => by cases h) fun _ _ =>
                    converses_ended rfl (by simp)
              | ok mechanisms =>
                  refine (says_scramAuth mechanisms).bind (fun _ said h => ?_)
                    (fun e said h => converses_exchange (by simp) h)
                    fun said h => converses_exchange (by simp) h
                  · obtain ⟨selected, scram, said', hBegins, rfl, hEnd⟩ | ⟨_, hNot⟩ := h
                    · obtain hFinishes | ⟨hNot, _⟩ := hEnd
                      · refine ih.mono fun outcome later ⟨accepted, hLater, hOk⟩ => ?_
                        exact ⟨accepted, .exchange hBegins hFinishes hLater, hOk⟩
                      · exact absurd rfl hNot
                    · exact absurd rfl hNot
          | _ => exact hUnexpected _
      | errorResponse body =>
          refine (says_serverError body).mono fun outcome later h => ?_
          obtain ⟨rfl, hNot⟩ := h
          exact converses_ended rfl hNot
      | _ => exact hUnexpected _

/-- Messages that are only read after it belong to the conversation. -/
theorem Conversation.append {accepted : Bool} {said later : List Said}
    (h : Conversation peer config accepted said) (hLater : later.filterMap Said.message? = []) :
    Conversation peer config accepted (said ++ later) := by
  induction h with
  | accepted more hMore => exact .accepted _ (by simp [hMore, hLater])
  | ended said hSaid => exact .ended _ (by simp [hSaid, hLater])
  | password request password hAllowed _ ih => exact .password request password hAllowed ih
  | exchange hBegins hSaid _ ih =>
      simpa only [List.cons_append, List.append_assoc] using Conversation.exchange hBegins hSaid ih
  | exchangeEnded hBegins said hSaid =>
      refine .exchangeEnded hBegins _ ?_
      simpa [OnlyResponds, hLater] using hSaid

theorem says_readStartupParams :
    Says peer (readStartupParams : Startup Scram ServerParams)
      fun _ said => said.filterMap Said.message? = [] := by
  have hReceived : ∀ entries : List Entry,
      (entries.map Said.received).filterMap Said.message? = [] ∧
        (entries.map Said.received).filterMap Said.entry? = entries := by
    intro entries
    induction entries with
    | nil => exact ⟨rfl, rfl⟩
    | cons entry entries ih => simp [List.filterMap_cons, Said.message?, Said.entry?, ih]
  intro t
  simp only [readStartupParams]
  cases hDrive : Drive.drive (startupStep peer.utf8Text) {} t.inbox with
  | waiting params =>
      have hAll : Spoke peer.net t { t with inbox := [] } (t.inbox.map .received) :=
        ⟨[], by simp [Transport.pending, (hReceived _).1], by simp [(hReceived _).2]⟩
      cases hEnding : t.ending with
      | some e => exact ⟨_, by simpa [hEnding] using hAll, (hReceived _).1⟩
      | none => exact ⟨_, by simpa [hEnding] using hAll, (hReceived _).1⟩
  | done result params inbox =>
      obtain ⟨taken, entry, _, hInbox, _, _⟩ := Drive.drive_done_split _ hDrive
      refine ⟨(taken ++ [entry]).map .received, ⟨[], ?_, ?_⟩, (hReceived _).1⟩
      · simp [Transport.pending, Said.message?, (hReceived _).1]
      · rw [(hReceived _).2]
        simp [← hInbox]

theorem says_authenticate (requests : Nat) :
    Says peer (authenticate config requests : Startup Scram ServerParams)
      (Converses peer config) := by
  refine (says_authenticateLoop requests).bind (fun _ said h => ?_) (fun e said h => ?_)
    fun said h => ?_
  · obtain ⟨accepted, hSaid, hOk⟩ := h
    refine says_readStartupParams.mono fun outcome later hLater => ?_
    exact ⟨accepted, hSaid.append hLater, fun _ => hOk ⟨(), rfl⟩⟩
  · exact ⟨_, h.choose_spec.1, fun ⟨_, hNot⟩ => by cases hNot⟩
  · exact ⟨_, h.choose_spec.1, fun ⟨_, hNot⟩ => by cases hNot⟩

end Runs

/-- What the first message of an exchange says of channel binding, over the mechanisms
that the server offered. -/
def Truthful (peer : Peer Scram) (mechanisms : List String) (mechanism : String) (data : Bytes) :
    Prop :=
  match peer.tlsServerEndPoint, decide (scramSha256Plus ∈ mechanisms) with
  | some binding, true => mechanism = scramSha256Plus ∧
      ∃ nonce password, data =
        peer.library.message (peer.library.new nonce password (.tlsServerEndPoint binding))
  | some _, false => mechanism = scramSha256 ∧ ∃ rest, data = asBytes "y,," ++ rest
  | none, _ => mechanism = scramSha256 ∧ ∃ rest, data = asBytes "n,," ++ rest

theorem truthful_of_begins {peer : Peer Scram} {config : Config} {mechanisms : List String}
    {selected : SelectedScramMechanism} {scram : Scram}
    (h : Begins peer config mechanisms selected scram) :
    Truthful peer mechanisms selected.mechanism (peer.library.message scram) := by
  obtain ⟨hChoice, nonce, password, _, rfl⟩ := h
  obtain ⟨rest, hMessage⟩ :=
    peer.library.message_new nonce (asBytes password) selected.channelBinding
  simp only [selectScramMechanism] at hChoice
  simp only [Truthful]
  cases hEnd : peer.tlsServerEndPoint with
  | none =>
      rw [hEnd] at hChoice
      dsimp only at hChoice
      split at hChoice
      · cases hChoice
        exact ⟨rfl, rest, hMessage⟩
      · cases hChoice
  | some binding =>
      cases hPlus : decide (scramSha256Plus ∈ mechanisms) with
      | true =>
          rw [hEnd, hPlus] at hChoice
          cases hChoice
          exact ⟨rfl, nonce, _, rfl⟩
      | false =>
          rw [hEnd, hPlus] at hChoice
          dsimp only at hChoice
          split at hChoice
          · cases hChoice
            exact ⟨rfl, rest, hMessage⟩
          · cases hChoice

namespace Conversation

variable {peer : Peer Scram} {config : Config} {accepted : Bool} {said : List Said}

theorem password_allowed (h : Conversation peer config accepted said) {password : Bytes}
    (hSent : .sent (.passwordMessage password) ∈ said) :
    peer.isSecure ∨ config.allowInsecureAuth := by
  have hMessage : .passwordMessage password ∈ said.filterMap Said.message? :=
    List.mem_filterMap.mpr ⟨_, hSent, rfl⟩
  clear hSent
  induction h with
  | accepted later hLater => simp [List.filterMap_cons, Said.message?, hLater] at hMessage
  | ended said hSaid => simp [hSaid] at hMessage
  | password request password hAllowed _ _ => exact hAllowed
  | exchange hBegins hSaid _ ih =>
      obtain ⟨serverFirst, scram', serverFinal, _, _, rfl⟩ := hSaid
      exact ih (by simpa [List.filterMap_cons, Said.message?, offers, begins] using hMessage)
  | exchangeEnded hBegins said hSaid =>
      have hLater : .passwordMessage password ∈ said.filterMap Said.message? := by
        simpa [List.filterMap_cons, Said.message?, offers, begins] using hMessage
      obtain ⟨data, hData⟩ := hSaid _ hLater
      cases hData

/-- Where the first message of an exchange stands in a conversation. -/
theorem exchange_at (h : Conversation peer config accepted said) {before after : List Said}
    {mechanism : String} {data : Bytes}
    (hSaid : said = before ++ .sent (.saslInitialResponse mechanism data) :: after) :
    ∃ before' mechanisms selected scram, before = before' ++ [offers mechanisms] ∧
      Begins peer config mechanisms selected scram ∧ mechanism = selected.mechanism ∧
      data = peer.library.message scram ∧
      (accepted = true → ∃ finish rest, Finishes peer scram finish ∧ after = finish ++ rest) := by
  have hSilent : ∀ {said before after : List Said}, OnlyResponds said →
      said ≠ before ++ .sent (.saslInitialResponse mechanism data) :: after := by
    rintro said before after hOnly rfl
    obtain ⟨data', hData⟩ := hOnly (.saslInitialResponse mechanism data)
      (by simp [List.filterMap_append, Said.message?])
    cases hData
  induction h generalizing before with
  | accepted later hLater =>
      exact absurd hSaid (hSilent (onlyResponds_of_silent
        (by simp [List.filterMap_cons, Said.message?, hLater])))
  | ended said hEnded => exact absurd hSaid (hSilent (onlyResponds_of_silent hEnded))
  | password request password hAllowed _ ih =>
      rcases before with _ | ⟨first, _ | ⟨second, before⟩⟩
      · cases hSaid
      · cases hSaid
      · simp only [List.cons_append, List.cons.injEq] at hSaid
        obtain ⟨before', mechanisms, selected, scram, rfl, hRest⟩ := ih hSaid.2.2
        exact ⟨first :: second :: before', mechanisms, selected, scram, rfl, hRest⟩
  | @exchange mechanisms selected scram hBegins finish hFinishes accepted rest _ ih =>
      rcases before with _ | ⟨first, _ | ⟨second, before⟩⟩
      · cases hSaid
      · simp only [begins, List.cons_append, List.nil_append, List.cons.injEq, Said.sent.injEq,
          FrontendMessage.saslInitialResponse.injEq] at hSaid
        obtain ⟨rfl, ⟨rfl, rfl⟩, rfl⟩ := hSaid
        exact ⟨[], mechanisms, selected, scram, rfl, hBegins, rfl, rfl,
          fun _ => ⟨finish, rest, hFinishes, rfl⟩⟩
      · simp only [List.cons_append, List.cons.injEq] at hSaid
        obtain ⟨rfl, rfl, hSaid⟩ := hSaid
        obtain ⟨serverFirst, scram', serverFinal, hUpdate, hFinish, rfl⟩ := hFinishes
        rcases before with _ | ⟨third, _ | ⟨fourth, _ | ⟨fifth, before⟩⟩⟩
        · cases hSaid
        · cases hSaid
        · cases hSaid
        · simp only [List.cons_append, List.nil_append, List.cons.injEq] at hSaid
          obtain ⟨before', mechanisms', selected', scram', rfl, hRest⟩ := ih hSaid.2.2.2
          exact ⟨offers mechanisms :: begins peer selected scram :: third :: fourth :: fifth ::
            before', mechanisms', selected', scram', rfl, hRest⟩
  | @exchangeEnded mechanisms selected scram hBegins tail hTail =>
      rcases before with _ | ⟨first, _ | ⟨second, before⟩⟩
      · cases hSaid
      · simp only [begins, List.cons_append, List.nil_append, List.cons.injEq, Said.sent.injEq,
          FrontendMessage.saslInitialResponse.injEq] at hSaid
        obtain ⟨rfl, ⟨rfl, rfl⟩, rfl⟩ := hSaid
        exact ⟨[], mechanisms, selected, scram, rfl, hBegins, rfl, rfl, fun h => by cases h⟩
      · simp only [List.cons_append, List.cons.injEq] at hSaid
        exact absurd hSaid.2.2 (hSilent hTail)

end Conversation

/-- Whatever the server sends: no password is sent in the clear unless that is allowed,
where authentication succeeds every exchange that was begun was finished by a message that
the library accepted, and every exchange says truthfully what it can bind. -/
theorem authenticate_safe (peer : Peer Scram) (config : Config) (requests : Nat) (t : Transport) :
    ∃ said, Spoke peer.net t (authenticate config requests peer t).2 said ∧
      (config.allowInsecureAuth = false → peer.isSecure = false →
        ∀ password, .sent (.passwordMessage password) ∉ said) ∧
      (∀ params, (authenticate config requests peer t).1 = .ok params →
        ∀ before mechanism data after,
          said = before ++ .sent (.saslInitialResponse mechanism data) :: after →
          ∃ scram finish rest, data = peer.library.message scram ∧ Finishes peer scram finish ∧
            after = finish ++ rest) ∧
      ∀ before mechanism data after,
        said = before ++ .sent (.saslInitialResponse mechanism data) :: after →
        ∃ before' mechanisms, before = before' ++ [offers mechanisms] ∧
          Truthful peer mechanisms mechanism data := by
  obtain ⟨said, hSpoke, accepted, hSaid, hOk⟩ := @says_authenticate _ peer config requests t
  refine ⟨said, hSpoke, fun hAllow hSecure password hSent => ?_,
    fun params hParams before mechanism data after hSplit => ?_,
    fun before mechanism data after hSplit => ?_⟩
  · have hAllowed := hSaid.password_allowed hSent
    simp [hAllow, hSecure] at hAllowed
  · obtain ⟨_, _, _, scram, _, _, _, hData, hFinish⟩ := hSaid.exchange_at hSplit
    obtain ⟨finish, rest, hFinishes, hAfter⟩ := hFinish (hOk ⟨params, hParams⟩)
    exact ⟨scram, finish, rest, hData, hFinishes, hAfter⟩
  · obtain ⟨before', mechanisms, selected, scram, hBefore, hBegins, rfl, rfl, _⟩ :=
      hSaid.exchange_at hSplit
    exact ⟨before', mechanisms, hBefore, truthful_of_begins hBegins⟩

end Auth
end PgClient
