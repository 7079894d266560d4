import PgClient.Auth.Authenticate
import PgClient.Transport.Passage

/-!
What is said in a startup: the messages in the order in which they are read and written,
and a calculus for what a computation says and how it ends.
-/

namespace PgClient

namespace Transport

/-- The messages that wait to be flushed. -/
def pending (t : Transport) : List FrontendMessage := t.writeBuf.map Frame.message

end Transport

namespace Auth

inductive Said where
  | received (entry : Entry)
  | sent (message : FrontendMessage)

namespace Said

def entry? : Said → Option Entry
  | .received entry => some entry
  | .sent _ => none

def message? : Said → Option FrontendMessage
  | .received _ => none
  | .sent message => some message

end Said

/-- Between two states of a transport `said` was said: every message written is delivered
or waits to be flushed, and every entry that came with the answers is read or waits. -/
def Spoke (net : Network) (t t' : Transport) (said : List Said) : Prop :=
  ∃ delivered, delivered ++ t'.pending = t.pending ++ said.filterMap Said.message? ∧
    t.deliverAll net delivered =
      { t' with inbox := said.filterMap Said.entry? ++ t'.inbox, writeBuf := t.writeBuf }

section Spoke

variable {net : Network} {t t' t'' : Transport} {said later : List Said}

theorem Spoke.refl (net : Network) (t : Transport) : Spoke net t t [] :=
  ⟨[], by simp, rfl⟩

theorem Spoke.trans (h : Spoke net t t' said) (h' : Spoke net t' t'' later) :
    Spoke net t t'' (said ++ later) := by
  obtain ⟨first, hPending, hDeliver⟩ := h
  obtain ⟨second, hPending', hDeliver'⟩ := h'
  refine ⟨first ++ second, ?_, ?_⟩
  · rw [List.append_assoc, hPending', ← List.append_assoc, hPending]
    simp
  · rw [Transport.deliverAll_append, hDeliver, Transport.deliverAll_frame, hDeliver']
    simp

theorem spoke_push (net : Network) (t : Transport) (frame : Frame) :
    Spoke net t (t.push frame) [.sent frame.message] :=
  ⟨[], by simp [Transport.pending, Transport.push, Said.message?], rfl⟩

theorem spoke_flushWrite (h : t.flushWrite net = .ok t') : Spoke net t t' [] := by
  simp only [Transport.flushWrite] at h
  split at h
  case isTrue =>
      cases h
      exact .refl net t
  case isFalse =>
      split at h
      · cases h
      · cases h
        refine ⟨t.pending, by simp [Transport.pending], ?_⟩
        have hFrame : Transport.deliverAll net { t with writeBuf := [] } t.pending =
            { t.deliverAll net t.pending with writeBuf := [] } := by
          simpa using Transport.deliverAll_frame net t t.pending [] []
        have hBuf := t.deliverAll_writeBuf net t.pending
        change _ = { Transport.deliverAll net { t with writeBuf := [] } t.pending with
          inbox := (Transport.deliverAll net { t with writeBuf := [] } t.pending).inbox
          writeBuf := t.writeBuf }
        rw [hFrame, ← hBuf]

end Spoke

variable {Scram α β : Type}

/-- What a computation says together with how it ends. -/
def Says (peer : Peer Scram) (x : Startup Scram α)
    (post : Outcome AuthError α → List Said → Prop) : Prop :=
  ∀ t, ∃ said, Spoke peer.net t (x peer t).2 said ∧ post (x peer t).1 said

section Says

variable {peer : Peer Scram} {x : Startup Scram α} {f : α → Startup Scram β}
  {post post' : Outcome AuthError α → List Said → Prop}
  {result : Outcome AuthError β → List Said → Prop}

theorem Says.mono (h : Says peer x post) (hPost : ∀ outcome said, post outcome said →
    post' outcome said) :
    Says peer x post' := fun t =>
  let ⟨said, hSpoke, hSaid⟩ := h t
  ⟨said, hSpoke, hPost _ said hSaid⟩

theorem Says.bind (hx : Says peer x post)
    (hf : ∀ a said, post (.ok a) said →
      Says peer (f a) fun outcome later => result outcome (said ++ later))
    (hErr : ∀ e said, post (.err e) said → result (.err e) said)
    (hPending : ∀ said, post .pending said → result .pending said) :
    Says peer (x >>= f) result := by
  intro t
  obtain ⟨said, hSpoke, hSaid⟩ := hx t
  rw [Async.bind_apply]
  rcases hResult : x peer t with ⟨a | e | _, t'⟩ <;> rw [hResult] at hSpoke hSaid
  · obtain ⟨later, hLater, hEnd⟩ := hf a said hSaid t'
    exact ⟨said ++ later, hSpoke.trans hLater, hEnd⟩
  · exact ⟨said, hSpoke, hErr e said hSaid⟩
  · exact ⟨said, hSpoke, hPending said hSaid⟩

theorem says_pure {a : α} (h : post (.ok a) []) : Says peer (pure a) post :=
  fun t => ⟨[], .refl _ t, h⟩

theorem says_fail {e : AuthError} (h : post (.err e) []) :
    Says peer (Async.fail e : Startup Scram α) post :=
  fun t => ⟨[], .refl _ t, h⟩

theorem says_wait (h : post .pending []) : Says peer (Async.wait : Startup Scram α) post :=
  fun t => ⟨[], .refl _ t, h⟩

theorem says_env_bind {k : Peer Scram → Startup Scram β} (h : Says peer (k peer) result) :
    Says peer (Async.env >>= k) result := h

theorem says_get_bind {k : Transport → Startup Scram β} (h : ∀ t, Says peer (k t) result) :
    Says peer (Async.get >>= k) result :=
  fun t => h t t

/-- A result that is at hand, of which a failure ends the computation. -/
theorem says_lift_bind {r : Except AuthError α}
    (hOk : ∀ a, r = .ok a → Says peer (f a) result)
    (hErr : ∀ e, r = .error e → result (.err e) []) :
    Says peer (Async.lift r >>= f) result := by
  cases r with
  | ok a => exact hOk a rfl
  | error e => exact fun t => ⟨[], .refl _ t, hErr e rfl⟩

theorem says_failIf_bind {c : Prop} [Decidable c] {e : AuthError} {k : Unit → Startup Scram β}
    (hOk : ¬ c → Says peer (k ()) result) (hErr : result (.err e) []) :
    Says peer (Async.failIf c e >>= k) result := by
  by_cases h : c
  · rw [Async.failIf_pos h]
    exact fun t => ⟨[], .refl _ t, hErr⟩
  · rw [Async.failIf_neg h]
    exact hOk h

/-- A message is said where reading succeeds, and at most an error is read where it fails. -/
theorem says_readMessage : Says peer (readMessage : Startup Scram BackendMessage)
    fun outcome said =>
      match outcome with
      | .ok message => said = [.received (.ok message)]
      | _ => said.filterMap Said.message? = [] := by
  intro t
  cases hInbox : t.inbox with
  | nil =>
      cases hEnding : t.ending with
      | none => exact ⟨[], by simp [readMessage, hInbox, hEnding, Spoke.refl]⟩
      | some e => exact ⟨[], by simp [readMessage, hInbox, hEnding, Spoke.refl]⟩
  | cons entry inbox =>
      have hRead : Spoke peer.net t { t with inbox } [.received entry] :=
        ⟨[], by simp [Transport.pending, Said.message?],
          by simp [Said.entry?, ← hInbox]⟩
      cases entry with
      | ok message =>
          exact ⟨_, by simpa [readMessage, hInbox] using hRead, by simp [readMessage, hInbox]⟩
      | error e =>
          exact ⟨_, by simpa [readMessage, hInbox] using hRead,
            by simp [readMessage, hInbox, Said.message?]⟩

theorem says_flushWrite : Says peer (flushWrite : Startup Scram Unit) fun _ said => said = [] := by
  intro t
  cases hFlush : t.flushWrite peer.net with
  | ok t' => exact ⟨[], by simpa [flushWrite, hFlush] using spoke_flushWrite hFlush⟩
  | error e => exact ⟨[], by simpa [flushWrite, hFlush] using Spoke.refl peer.net t⟩

theorem says_flush : Says peer (flush : Startup Scram Unit) fun _ said => said = [] := by
  refine says_flushWrite.bind (fun _ said h => ?_) (fun _ _ => id) fun _ => id
  subst h
  refine says_env_bind (says_get_bind fun t => ?_)
  split
  · exact says_fail rfl
  · exact says_pure rfl

/-- A message whose encoding fails is not sent; otherwise it is, whatever comes of it. -/
theorem says_send (message : FrontendMessage) :
    Says peer (send message : Startup Scram Unit) fun outcome said =>
      said = [.sent message] ∨ said = [] ∧ outcome ≠ .ok () := by
  refine @Says.bind _ _ _ _ _ _ (fun outcome said => said = [] ∧
      ∀ frame, outcome = .ok frame → frame.message = message) _ ?_ ?_ ?_ ?_
  · refine says_env_bind (says_lift_bind (fun bytes _ => says_pure ?_) fun e _ => ?_)
    · exact ⟨rfl, fun frame h => by cases h; rfl⟩
    · exact ⟨rfl, fun frame h => by cases h⟩
  · rintro frame _ ⟨rfl, hFrame⟩
    refine @Says.bind _ _ _ _ _ _ (fun _ said => said = [.sent message]) _ ?_ ?_ ?_ ?_
    · intro t
      have hPush := spoke_push peer.net t frame
      rw [hFrame frame rfl] at hPush
      obtain ⟨_, hFlush, rfl⟩ := @says_flushWrite _ peer (t.push frame)
      refine ⟨[.sent message], ?_, rfl⟩
      simp only [writeAll, Async.bind_apply, Async.modify_apply, Async.andThen_ok, Async.get_apply]
      by_cases hFull : Transport.writeBufferFlushThreshold ≤ (t.push frame).bufferedLen
      · rw [Async.doIf_pos hFull]
        exact hPush.trans hFlush
      · rw [Async.doIf_neg hFull]
        exact hPush
    · rintro _ _ rfl
      exact says_flush.mono fun _ _ h => Or.inl (by simp [h])
    · exact fun _ _ h => Or.inl (by simpa using h)
    · exact fun _ h => Or.inl (by simpa using h)
  · rintro e _ ⟨rfl, _⟩
    exact Or.inr ⟨rfl, by simp⟩
  · rintro _ ⟨rfl, _⟩
    exact Or.inr ⟨rfl, by simp⟩

end Says
end Auth
end PgClient
