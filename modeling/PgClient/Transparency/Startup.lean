import PgClient.Auth.Authenticate
import PgClient.Transparency.Waits

/-!
Two runs of a startup. Up to its `AuthenticationOk` the server says the same in both; from
there on notices, notifications and readable parameters may be put in anywhere.
-/

namespace PgClient

open Drive Async

/-- What the end of a startup takes note of, or passes over. -/
def Entry.isReported : Entry → Bool
  | .ok (.noticeResponse _) | .ok (.notificationResponse _) => true
  | .ok (.parameterStatus body) => body.name.isSome && body.value.isSome
  | _ => false

theorem SameBut.induction {hidden : Entry → Bool} {motive : List Entry → List Entry → Prop}
    (hNil : motive [] [])
    (hLeft : ∀ entry entries entries', hidden entry → motive entries entries' →
      motive (entry :: entries) entries')
    (hRight : ∀ entry entries entries', hidden entry → motive entries entries' →
      motive entries (entry :: entries'))
    (hKeep : ∀ entry entries entries', hidden entry = false → SameBut hidden entries entries' →
      motive entries entries' → motive (entry :: entries) (entry :: entries')) :
    ∀ entries entries', SameBut hidden entries entries' → motive entries entries'
  | [], [], _ => hNil
  | [], entry' :: entries', h => by
      cases hKind : hidden entry' with
      | true =>
          refine hRight _ _ _ hKind (SameBut.induction hNil hLeft hRight hKeep _ _ ?_)
          simpa [SameBut, hKind] using h
      | false => simp [SameBut, hKind] at h
  | entry :: entries, entries', h => by
      cases hKind : hidden entry with
      | true =>
          refine hLeft _ _ _ hKind (SameBut.induction hNil hLeft hRight hKeep _ _ ?_)
          simpa [SameBut, hKind] using h
      | false =>
          cases entries' with
          | nil => simp [SameBut, hKind] at h
          | cons entry' entries' =>
              cases hKind' : hidden entry' with
              | true =>
                  refine hRight _ _ _ hKind' (SameBut.induction hNil hLeft hRight hKeep _ _ ?_)
                  simpa [SameBut, hKind'] using h
              | false =>
                  obtain ⟨rfl, hRest⟩ : entry = entry' ∧ SameBut hidden entries entries' := by
                    simpa [SameBut, hKind, hKind'] using h
                  exact hKeep _ _ _ hKind hRest
                    (SameBut.induction hNil hLeft hRight hKeep _ _ hRest)
termination_by entries entries' => entries.length + entries'.length

/-- The same up to `AuthenticationOk`. -/
inductive SameStartup : List Entry → List Entry → Prop where
  | same (entries : List Entry) : SameStartup entries entries
  | accepted (before : List Entry) {after after' : List Entry}
      (h : SameBut Entry.isReported after after') :
      SameStartup (before ++ .ok (.authentication .ok) :: after)
        (before ++ .ok (.authentication .ok) :: after')

theorem SameStartup.sameBut {entries entries' : List Entry} (h : SameStartup entries entries') :
    SameBut Entry.isReported entries entries' := by
  cases h with
  | same => rfl
  | accepted before h =>
      refine sameBut_append (rfl : SameBut _ before before) ?_
      exact sameBut_append (rfl : SameBut _ [.ok (.authentication .ok)] _) h

theorem appends_sameStartup : Appends SameStartup := by
  intro entries entries' later later' h hLater
  cases h with
  | same =>
      cases hLater with
      | same => exact .same _
      | accepted before hAfter =>
          rw [← List.append_assoc, ← List.append_assoc]
          exact .accepted (entries ++ before) hAfter
  | accepted before hAfter =>
      rw [List.append_assoc, List.append_assoc]
      exact .accepted before (sameBut_append hAfter hLater.sameBut)

namespace Auth

variable {Scram α β : Type}

/-- The same peer on two networks. -/
structure Peer.Alike (peer peer' : Peer Scram) : Prop where
  net : peer.net.Alike SameStartup peer'.net
  rest : peer' = { peer with net := peer'.net }

/-- Two runs from the same standing end alike and, where they succeed, with `post`. -/
def Agrees (post : Transport → Transport → Prop) (x : Startup Scram α) : Prop :=
  ∀ peer peer' t t', Peer.Alike peer peer' → t.Alike SameStartup t' →
    (x peer t).1 = (x peer' t').1 ∧
      ∀ a, (x peer t).1 = .ok a → post (x peer t).2 (x peer' t').2

section Rules

variable {post : Transport → Transport → Prop}

theorem agrees_pure (a : α) : Agrees (Transport.Alike SameStartup) (pure a : Startup Scram α) :=
  fun _ _ _ _ _ h => ⟨rfl, fun _ _ => h⟩

theorem agrees_fail (e : AuthError) : Agrees post (fail e : Startup Scram α) :=
  fun _ _ _ _ _ _ => ⟨rfl, fun _ hOk => by cases hOk⟩

theorem agrees_lift (result : Except AuthError α) :
    Agrees (Transport.Alike SameStartup) (lift result : Startup Scram α) := by
  cases result with
  | ok a => exact agrees_pure a
  | error e => exact agrees_fail e

theorem agrees_bind {x : Startup Scram α} {f : α → Startup Scram β}
    (hx : Agrees (Transport.Alike SameStartup) x) (hf : ∀ a, Agrees post (f a)) :
    Agrees post (x >>= f) := by
  intro peer peer' t t' hPeer h
  obtain ⟨hOutcome, hLeft⟩ := hx peer peer' t t' hPeer h
  rw [bind_apply, bind_apply]
  revert hOutcome hLeft
  rcases x peer t with ⟨outcome, u⟩
  rcases x peer' t' with ⟨outcome', u'⟩
  rintro (rfl : outcome = outcome') hLeft
  cases outcome with
  | ok a => exact hf a peer peer' u u' hPeer (hLeft a rfl)
  | err e => exact ⟨rfl, fun _ hOk => by cases hOk⟩
  | pending => exact ⟨rfl, fun _ hOk => by cases hOk⟩

/-- A computation that asks of its peer what is not on the network. -/
theorem agrees_env {k : Peer Scram → Startup Scram β}
    (hNet : ∀ (peer : Peer Scram) net, k { peer with net } = k peer)
    (hk : ∀ peer, Agrees post (k peer)) : Agrees post (Async.env >>= k) := by
  intro peer peer' t t' hPeer h
  have hSame : k peer' = k peer := by
    rw [hPeer.rest]
    exact hNet peer _
  simp only [bind_apply, env_apply, andThen_ok, hSame]
  exact hk peer peer peer' t t' hPeer h

theorem agrees_get {k : Transport → Startup Scram β}
    (hSame : ∀ t t' : Transport, t.history = t'.history → k t = k t')
    (hk : ∀ t, Agrees post (k t)) : Agrees post (Async.get >>= k) := by
  intro peer peer' t t' hPeer h
  simp only [bind_apply, get_apply, andThen_ok, ← hSame t t' h.history]
  exact hk t peer peer' t t' hPeer h

theorem agrees_readMessage {k : BackendMessage → Startup Scram β}
    (hAccepted : ∀ peer peer' t t', Peer.Alike peer peer' →
      t.Alike (SameBut Entry.isReported) t' →
      (k (.authentication .ok) peer t).1 = (k (.authentication .ok) peer' t').1 ∧
        ∀ b, (k (.authentication .ok) peer t).1 = .ok b →
          post (k (.authentication .ok) peer t).2 (k (.authentication .ok) peer' t').2)
    (hOther : ∀ message, message ≠ .authentication .ok → Agrees post (k message)) :
    Agrees post (readMessage >>= k) := by
  rintro peer peer' ⟨writeBuf, history, inbox, ending⟩ ⟨_, _, inbox', _⟩ hPeer
    ⟨rfl, rfl, rfl, hInbox⟩
  -- A message that is not `AuthenticationOk` leaves the two runs where they were.
  have hTook : ∀ message rest rest', SameStartup rest rest' →
      SameBut Entry.isReported rest rest' →
      (k message peer ⟨writeBuf, history, rest, ending⟩).1 =
          (k message peer' ⟨writeBuf, history, rest', ending⟩).1 ∧
        ∀ b, (k message peer ⟨writeBuf, history, rest, ending⟩).1 = .ok b →
          post (k message peer ⟨writeBuf, history, rest, ending⟩).2
            (k message peer' ⟨writeBuf, history, rest', ending⟩).2 := by
    intro message rest rest' hRest hSame
    by_cases hOk : message = .authentication .ok
    · subst hOk
      exact hAccepted peer peer' _ _ hPeer ⟨rfl, rfl, rfl, hSame⟩
    · exact hOther message hOk peer peer' _ _ hPeer ⟨rfl, rfl, rfl, hRest⟩
  dsimp only at hInbox
  rw [bind_apply, bind_apply]
  cases hInbox with
  | same =>
      match inbox with
      | [] => cases ending <;> exact ⟨rfl, fun _ hOk => by cases hOk⟩
      | .error e :: rest => exact ⟨rfl, fun _ hOk => by cases hOk⟩
      | .ok message :: rest => exact hTook message rest rest (.same rest) rfl
  | accepted before hAfter =>
      match before with
      | [] => exact hAccepted peer peer' _ _ hPeer ⟨rfl, rfl, rfl, hAfter⟩
      | .error e :: before => exact ⟨rfl, fun _ hOk => by cases hOk⟩
      | .ok message :: before =>
          exact hTook message _ _ (.accepted before hAfter)
            (SameStartup.accepted before hAfter).sameBut

theorem agrees_flushWrite : Agrees (Transport.Alike SameStartup)
    (flushWrite : Startup Scram Unit) := by
  intro peer peer' t t' hPeer h
  have hFlush := h.flushWrite appends_sameStartup hPeer.net
  simp only [flushWrite]
  revert hFlush
  cases t.flushWrite peer.net with
  | error e =>
      cases t'.flushWrite peer'.net with
      | error e' =>
          rintro rfl
          exact ⟨rfl, fun _ hOk => by cases hOk⟩
      | ok sent' => exact False.elim
  | ok sent =>
      cases t'.flushWrite peer'.net with
      | error e' => exact False.elim
      | ok sent' => exact fun hSent => ⟨rfl, fun _ _ => hSent⟩

theorem agrees_send (message : FrontendMessage) :
    Agrees (Transport.Alike SameStartup) (send message : Startup Scram Unit) := by
  have hEncode : Agrees (Transport.Alike SameStartup) (encode message : Startup Scram Frame) := by
    intro peer peer' t t' hPeer h
    simp only [encode, bind_apply, env_apply, andThen_ok, ← hPeer.net.encode]
    cases peer.net.encode message <;> exact ⟨rfl, fun _ _ => h⟩
  have hWrite : ∀ frame, Agrees (Transport.Alike SameStartup)
      (writeAll frame : Startup Scram Unit) := by
    intro frame peer peer' t t' hPeer h
    have hPush := h.push frame
    have hLen : (t.push frame).bufferedLen = (t'.push frame).bufferedLen := by
      rw [Transport.bufferedLen, Transport.bufferedLen, hPush.writeBuf]
    simp only [writeAll, bind_apply, modify_apply, andThen_ok, get_apply, ← hLen]
    by_cases hFull : Transport.writeBufferFlushThreshold ≤ (t.push frame).bufferedLen
    · rw [doIf_pos hFull]
      exact agrees_flushWrite peer peer' _ _ hPeer hPush
    · rw [doIf_neg hFull]
      exact ⟨rfl, fun _ _ => hPush⟩
  have hFlush : Agrees (Transport.Alike SameStartup) (flush : Startup Scram Unit) := by
    refine agrees_bind agrees_flushWrite fun _ => ?_
    intro peer peer' t t' hPeer h
    simp only [bind_apply, env_apply, get_apply, andThen_ok, ← h.history, ← hPeer.net.flushError]
    cases peer.net.flushError t.history <;> exact ⟨rfl, fun _ _ => h⟩
  exact agrees_bind hEncode fun frame => agrees_bind (hWrite frame) fun _ => hFlush

end Rules

section Methods

variable {post : Transport → Transport → Prop}

theorem agrees_serverError (body : ErrorBody) : Agrees post (serverError body : Startup Scram α) :=
  agrees_bind (agrees_lift _) fun _ => agrees_fail _

theorem agrees_password (config : Config) :
    Agrees (Transport.Alike SameStartup) (password config : Startup Scram String) := by
  rw [password]
  split
  · exact agrees_pure _
  · exact agrees_fail _

theorem agrees_failIf (c : Prop) [Decidable c] (e : AuthError) :
    Agrees (Transport.Alike SameStartup) (failIf c e : Startup Scram Unit) := by
  rw [failIf]
  split
  · exact agrees_fail e
  · exact agrees_pure ()

theorem agrees_saslData (data : BackendMessage → Option Bytes)
    (hData : data (.authentication .ok) = none) :
    Agrees (Transport.Alike SameStartup) (saslData data : Startup Scram Bytes) := by
  apply agrees_readMessage
  · intro peer peer' t t' hPeer h
    rw [hData]
    exact ⟨rfl, fun _ hOk => by cases hOk⟩
  · intro message _
    split
    · exact agrees_pure _
    · exact agrees_serverError _
    · exact agrees_fail _

theorem agrees_scramAuth (config : Config) (mechanisms : List String) :
    Agrees (Transport.Alike SameStartup) (scramAuth config mechanisms : Startup Scram Unit) := by
  refine agrees_bind (agrees_password config) fun password => ?_
  refine agrees_env (fun _ _ => rfl) fun peer => agrees_bind (agrees_lift _) fun selected => ?_
  refine agrees_get (fun t t' hHistory => by rw [hHistory]) fun t => ?_
  refine agrees_bind (agrees_send _) fun _ => ?_
  refine agrees_bind (agrees_saslData _ rfl) fun serverFirst => ?_
  refine agrees_bind (agrees_lift _) fun scram => agrees_bind (agrees_send _) fun _ => ?_
  exact agrees_bind (agrees_saslData _ rfl) fun serverFinal => agrees_lift _

/-- The loop leaves at `AuthenticationOk`, from where on the runs may differ. -/
theorem agrees_authenticateLoop (config : Config) (requests : Nat) :
    Agrees (Transport.Alike (SameBut Entry.isReported))
      (authenticateLoop config requests : Startup Scram Unit) := by
  induction requests with
  | zero => exact fun _ _ _ _ _ _ => ⟨rfl, fun _ hOk => by cases hOk⟩
  | succ requests ih =>
      apply agrees_readMessage
      · exact fun _ _ _ _ _ h => ⟨rfl, fun _ _ => h⟩
      · intro message hMessage
        split
        · exact absurd rfl hMessage
        · refine agrees_env (fun _ _ => rfl) fun peer => agrees_bind (agrees_failIf _ _) fun _ => ?_
          refine agrees_bind ?_ fun _ => ih
          exact agrees_bind (agrees_password config) fun _ => agrees_send _
        · refine agrees_env (fun _ _ => rfl) fun peer => agrees_bind (agrees_failIf _ _) fun _ => ?_
          refine agrees_bind ?_ fun _ => ih
          refine agrees_bind (agrees_password config) fun _ => ?_
          exact agrees_env (fun _ _ => rfl) fun _ => agrees_send _
        · refine agrees_bind (agrees_lift _) fun mechanisms => ?_
          exact agrees_bind (agrees_scramAuth config mechanisms) fun _ => ih
        · exact agrees_serverError _
        · exact agrees_fail _

end Methods

section Parameters

/-- The same but for the parameters that are recorded. -/
def SameKey (params params' : ServerParams) : Prop :=
  params.processId = params'.processId ∧ params.secretKey = params'.secretKey

theorem sameKey_setParameter (params : ServerParams) (name value : String) :
    (setParameter params name value).processId = params.processId ∧
      (setParameter params name value).secretKey = params.secretKey := by
  simp only [setParameter]
  split <;> exact ⟨rfl, rfl⟩

/-- How the two loops over the end of a startup stop. -/
def StopAlike :
    Stop ServerParams Entry (Except AuthError ServerParams) →
      Stop ServerParams Entry (Except AuthError ServerParams) → Prop
  | .waiting _, .waiting _ => True
  | .done (.ok params) _ rest, .done (.ok params') _ rest' =>
      SameKey params params' ∧ SameBut Entry.isReported rest rest'
  | .done (.error e) _ _, .done (.error e') _ _ => e = e'
  | _, _ => False

theorem startupStep_reported (utf8Text : ParameterStatusBody → String) (params : ServerParams)
    {entry : Entry} (h : entry.isReported) :
    ∃ params', startupStep utf8Text params entry = .next params' ∧ SameKey params' params := by
  cases entry with
  | error e => cases h
  | ok message =>
      cases message with
      | noticeResponse body => exact ⟨params, rfl, rfl, rfl⟩
      | notificationResponse body => exact ⟨params, rfl, rfl, rfl⟩
      | parameterStatus body =>
          obtain ⟨name, value⟩ := body
          match name, value with
          | some name, some value => exact ⟨_, rfl, sameKey_setParameter params name value⟩
          | none, _ => cases h
          | some _, none => cases h
      | _ => cases h

/-- What both loops see is the same to both. -/
theorem startupStep_other (utf8Text : ParameterStatusBody → String) {params params' : ServerParams}
    (hKey : SameKey params params') {entry : Entry} (h : entry.isReported = false) :
    match startupStep utf8Text params entry, startupStep utf8Text params' entry with
    | .next after, .next after' => SameKey after after'
    | .exit (.ok after) _, .exit (.ok after') _ => SameKey after after'
    | .exit (.error e) _, .exit (.error e') _ => e = e'
    | _, _ => False := by
  cases entry with
  | error e => rfl
  | ok message =>
      cases message with
      | backendKeyData processId secretKey => exact ⟨rfl, rfl⟩
      | readyForQuery status => exact hKey
      | errorResponse body =>
          simp only [startupStep]
          cases formatErrorFields body <;> rfl
      | parameterStatus body =>
          obtain ⟨name, value⟩ := body
          match name, value with
          | some name, some value => cases h
          | none, _ => rfl
          | some _, none => rfl
      | _ => exact hKey

theorem drive_startup (utf8Text : ParameterStatusBody → String) :
    ∀ entries entries', SameBut Entry.isReported entries entries' →
      ∀ params params', SameKey params params' →
        StopAlike (drive (startupStep utf8Text) params entries)
          (drive (startupStep utf8Text) params' entries') := by
  apply SameBut.induction
  · exact fun _ _ _ => trivial
  · intro entry entries entries' hReported ih params params' hKey
    obtain ⟨after, hNext, hAfter⟩ := startupStep_reported utf8Text params hReported
    rw [drive_cons_next _ _ hNext]
    exact ih after params' ⟨hAfter.1.trans hKey.1, hAfter.2.trans hKey.2⟩
  · intro entry entries entries' hReported ih params params' hKey
    obtain ⟨after, hNext, hAfter⟩ := startupStep_reported utf8Text params' hReported
    rw [drive_cons_next _ _ hNext]
    exact ih params after ⟨hKey.1.trans hAfter.1.symm, hKey.2.trans hAfter.2.symm⟩
  · intro entry entries entries' hOther hRest ih params params' hKey
    have hStep := startupStep_other utf8Text hKey hOther
    rw [drive_cons, drive_cons]
    revert hStep
    cases startupStep utf8Text params entry with
    | next after =>
        cases startupStep utf8Text params' entry with
        | next after' => exact fun hAfter => ih after after' hAfter
        | exit result after' => exact False.elim
    | exit result after =>
        cases startupStep utf8Text params' entry with
        | next after' => cases result <;> exact False.elim
        | exit result' after' =>
            cases result with
            | ok keys =>
                cases result' with
                | ok keys' => exact fun hSame => ⟨hSame, hRest⟩
                | error e' => exact False.elim
            | error e =>
                cases result' with
                | ok keys' => exact False.elim
                | error e' => exact id

theorem readStartupParams_alike {peer peer' : Peer Scram} (hPeer : Peer.Alike peer peer')
    {t t' : Transport} (h : t.Alike (SameBut Entry.isReported) t') :
    match readStartupParams peer t, readStartupParams peer' t' with
    | (.ok params, u), (.ok params', u') =>
        SameKey params params' ∧ u.Alike (SameBut Entry.isReported) u'
    | (.err e, _), (.err e', _) => e = e'
    | (.pending, _), (.pending, _) => True
    | _, _ => False := by
  have hText : peer'.utf8Text = peer.utf8Text := by rw [hPeer.rest]
  have hDrive := drive_startup peer.utf8Text _ _ h.inbox {} {} ⟨rfl, rfl⟩
  simp only [readStartupParams, hText]
  revert hDrive
  cases drive (startupStep peer.utf8Text) {} t.inbox with
  | waiting params =>
      cases drive (startupStep peer.utf8Text) {} t'.inbox with
      | waiting params' =>
          intro _
          dsimp only
          rw [h.ending]
          cases t'.ending <;> trivial
      | done result params' rest' => exact False.elim
  | done result params rest =>
      cases drive (startupStep peer.utf8Text) {} t'.inbox with
      | waiting params' => cases result <;> exact False.elim
      | done result' params' rest' =>
          cases result with
          | ok params =>
              cases result' with
              | ok params' =>
                  rintro ⟨hKey, hRest⟩
                  exact ⟨hKey, h.writeBuf, h.history, h.ending, hRest⟩
              | error e' => exact False.elim
          | error e =>
              cases result' with
              | ok params' => exact False.elim
              | error e' => exact id

end Parameters

/-- The connection that a startup leaves. -/
def connected (t : Transport) (serverParams : ServerParams) : Connection :=
  { Connection.new with transport := t, serverParams }

/-- `connect` on an open transport. -/
def connect (config : Config) (requests : Nat) (peer : Peer Scram) : Outcome PgError Connection :=
  (handshake config requests peer).map fun (t, serverParams) => connected t serverParams

/-- The same error, or connections that are alike but for what comes unasked. -/
def SameConnect : Outcome PgError Connection → Outcome PgError Connection → Prop
  | .ok conn, .ok conn' => conn.Alike (SameBut Entry.isAsync) conn'
  | .err e, .err e' => e = e'
  | .pending, .pending => True
  | _, _ => False

theorem isAsync_of_isReported (entry : Entry) (h : entry.isReported) : entry.isAsync := by
  cases entry with
  | error e => cases h
  | ok message => cases message <;> first | rfl | cases h

theorem connect_transparent (config : Config) (requests : Nat) {peer peer' : Peer Scram}
    (hPeer : Peer.Alike peer peer') :
    SameConnect (connect config requests peer) (connect config requests peer') := by
  obtain ⟨loop, hStartup, hLoop⟩ : ∃ loop : Startup Scram Unit,
      startup config requests = (loop >>= fun _ => readStartupParams) ∧
        Agrees (Transport.Alike (SameBut Entry.isReported)) loop :=
    ⟨send (.startup config.startupParams) >>= fun _ => authenticateLoop config requests,
      by rw [startup, authenticate, bind_assoc],
      agrees_bind (agrees_send _) fun _ => agrees_authenticateLoop config requests⟩
  obtain ⟨hOutcome, hLeft⟩ := hLoop peer peer' .new .new hPeer ⟨rfl, rfl, rfl, .same []⟩
  simp only [connect, handshake, hStartup, bind_apply]
  revert hOutcome hLeft
  rcases loop peer .new with ⟨outcome, t⟩
  rcases loop peer' .new with ⟨outcome', t'⟩
  rintro (rfl : outcome = outcome') hLeft
  cases outcome with
  | err e => rfl
  | pending => trivial
  | ok value =>
      have hRead := readStartupParams_alike hPeer (hLeft value rfl)
      simp only [andThen_ok]
      revert hRead
      match readStartupParams peer t, readStartupParams peer' t' with
      | (.ok params, u), (.ok params', u') =>
          rintro ⟨⟨hProcess, hSecret⟩, hAlike⟩
          refine ⟨{ hAlike with inbox := SameBut.mono isAsync_of_isReported hAlike.inbox }, ?_⟩
          simp only [connected, Connection.overlay, Connection.aside, ← hProcess, ← hSecret]
      | (.err e, _), (.err e', _) =>
          rintro rfl
          rfl
      | (.pending, _), (.pending, _) => exact id
      | (.ok _, _), (.err _, _) => exact False.elim
      | (.ok _, _), (.pending, _) => exact False.elim
      | (.err _, _), (.ok _, _) => exact False.elim
      | (.err _, _), (.pending, _) => exact False.elim
      | (.pending, _), (.ok _, _) => exact False.elim
      | (.pending, _), (.err _, _) => exact False.elim

/-- A method that only says of its channel binding what it must. -/
def plainLibrary : Library Bytes where
  new _ _ binding := asBytes binding.gs2Header
  message scram := scram
  update scram _ := .ok scram
  finish _ _ := .ok ()
  md5Hash _ _ _ := ""
  message_new _ _ _ := ⟨[], (List.append_nil _).symm⟩

/-- A server that answers every message with the same entries. -/
def repeating (messages : List Entry) : Network where
  frontend := fun _ => .ok []
  frontendTotal := fun _ => []
  typeFromOid := fun _ => none
  answer := fun _ _ => ⟨messages, none⟩
  writeError := fun _ => none
  flushError := fun _ => none

theorem alike_repeating {alike : List Entry → List Entry → Prop} {messages messages' : List Entry}
    (h : alike messages messages') : (repeating messages).Alike alike (repeating messages') :=
  ⟨rfl, rfl, rfl, rfl, rfl, fun _ _ => rfl, fun _ _ => h⟩

def trusting (messages : List Entry) : Peer Bytes where
  net := repeating messages
  isSecure := true
  tlsServerEndPoint := none
  library := plainLibrary
  nonce := fun _ => ""
  utf8Text := fun _ => ""

/-- A server that lets everyone in. -/
def welcome : List Entry := [.ok (.authentication .ok), .ok (.readyForQuery 73)]

/-- The same with a notice first. -/
def warned : List Entry :=
  .ok (.noticeResponse { fields := .ok [(83, "WARNING"), (67, "01000"), (77, "restart soon")] }) ::
    welcome

/-- The same with a parameter that is not UTF-8. -/
def garbled : List Entry :=
  [.ok (.authentication .ok),
    .ok (.parameterStatus { name := some "application_name", value := none }),
    .ok (.readyForQuery 73)]

end Auth

namespace Connection

/-- On a connection, every operation is transparent to asynchronous messages, and waiting for
a notification to all but notifications; a startup is so from `AuthenticationOk` on. -/
theorem asynchronous_transparent :
    Operations @Transparent @OwnerTransparent ∧
      (∀ timeout, WaitTransparent (waitForNotification timeout) ∧
        WaitTransparent (waitForNotificationFallback timeout)) ∧
      ∀ (Scram : Type) (config : Config) (requests : Nat) (peer peer' : Auth.Peer Scram),
        Auth.Peer.Alike peer peer' →
          Auth.SameConnect (Auth.connect config requests peer)
            (Auth.connect config requests peer') :=
  ⟨transparent_rules.parts.operations transparent_rules.count,
    fun timeout => ⟨waitTransparent timeout, waitTransparent_fallback timeout⟩,
    fun _ config requests _ _ hPeer => Auth.connect_transparent config requests hPeer⟩

/-- A notification that is put in is the one that a wait returns; a notice before
`AuthenticationOk`, or a parameter that cannot be read after it, ends a startup. -/
theorem asynchronous_not_transparent :
    ¬ (∀ timeout net net' conn conn', Network.Alike (SameBut Entry.isAsync) net net' →
        Alike (SameBut Entry.isAsync) conn conn' →
        (waitForNotification timeout net conn).1 = (waitForNotification timeout net' conn').1) ∧
      SameBut Entry.isAsync Auth.welcome Auth.warned ∧
      ¬ Auth.SameConnect (Auth.connect .new 1 (Auth.trusting Auth.welcome))
        (Auth.connect .new 1 (Auth.trusting Auth.warned)) ∧
      SameBut Entry.isAsync Auth.welcome Auth.garbled ∧
      ¬ Auth.SameConnect (Auth.connect .new 1 (Auth.trusting Auth.welcome))
        (Auth.connect .new 1 (Auth.trusting Auth.garbled)) := by
  refine ⟨?_, rfl, id, rfl, id⟩
  intro hAll
  have hSame := hAll none (Auth.repeating []) (Auth.repeating []) .new
    (Connection.new.setInbox [.ok Delivery.greeting]) (Auth.alike_repeating rfl)
    ⟨⟨rfl, rfl, rfl, rfl⟩, rfl⟩
  cases hSame

end Connection
end PgClient
