import PgClient.Connection.Request

/-!
What read loops make of a whole reply: asynchronous messages may stand anywhere in it,
and a loop that decides by the messages alone comes to the same end without them.
-/

namespace PgClient

open Drive Async

/-- A reply with asynchronous messages anywhere in it, and nothing else. -/
def Interleaves (entries : List Entry) (reply : List BackendMessage) : Prop :=
  entries.filter (fun entry => !entry.isAsync) = reply.map .ok

namespace Connection

variable {L β : Type}
  {body : L × Connection → BackendMessage → Step (L × Connection) (Except PgError β)}

/-- A loop body on its local variable alone, the connection being any other. -/
def localStep
    (body : L × Connection → BackendMessage → Step (L × Connection) (Except PgError β))
    (l : L) (message : BackendMessage) : Step L (Except PgError β) :=
  (body (l, .new) message).map Prod.fst

/-- What a body makes of its local variable, and whether it leaves, is up to the message;
asynchronous messages do not matter to it. -/
structure Detached
    (body : L × Connection → BackendMessage → Step (L × Connection) (Except PgError β)) :
    Prop where
  alone : ∀ l conn message, (body (l, conn) message).map Prod.fst = localStep body l message
  async : ∀ l conn message, message.isAsync → (body (l, conn) message).map Prod.fst = .next l

theorem detached_asyncFirst
    (h : ∀ l conn message, (body (l, conn) message).map Prod.fst = localStep body l message) :
    Detached (asyncFirst body) := by
  have hAsync : ∀ l conn message, message.isAsync →
      (asyncFirst body (l, conn) message).map Prod.fst = .next l := by
    intro l conn message hAsync
    have hSome : (conn.handleAsyncMessage message).isSome := by
      rw [handleAsyncMessage_isSome]
      exact hAsync
    obtain ⟨conn', hConn⟩ := Option.isSome_iff_exists.mp hSome
    simp only [asyncFirst, hConn, Step.map_next]
  have hSync : ∀ l conn message, message.isAsync = false →
      asyncFirst body (l, conn) message = body (l, conn) message := by
    intro l conn message hSync
    have hNone : conn.handleAsyncMessage message = none := by
      rw [← Option.not_isSome_iff_eq_none, handleAsyncMessage_isSome]
      simp [hSync]
    simp only [asyncFirst, hNone]
  refine ⟨?_, hAsync⟩
  intro l conn message
  rw [localStep]
  cases hKind : message.isAsync with
  | true => rw [hAsync l conn message hKind, hAsync l .new message hKind]
  | false =>
      rw [hSync l conn message hKind, hSync l .new message hKind]
      exact h l conn message

private def localRead
    (body : L × Connection → BackendMessage → Step (L × Connection) (Except PgError β))
    (l : L) : Entry → Step L (Except PgError β)
  | .error e => .exit (.error e.toPgError) l
  | .ok message => localStep body l message

private theorem Detached.follows (h : Detached body) :
    Follows (readStep body) (localRead body) Prod.fst (fun entry => !entry.isAsync) where
  seen := by
    intro (l, conn) entry _
    cases entry with
    | error e => rfl
    | ok message => exact h.alone l conn message
  unseen := by
    intro (l, conn) entry hAsync
    cases entry with
    | error e => cases hAsync
    | ok message => exact h.async l conn message (by simpa [Entry.isAsync] using hAsync)

/-- Where a loop over a reply has left: at a message of the reply. -/
structure LeftAt (entries : List Entry) (reply rest : List BackendMessage) (rest' : List Entry) :
    Prop where
  unread : Interleaves rest' rest
  split : ∃ taken message read, entries = taken ++ .ok message :: rest' ∧
    reply = read ++ message :: rest

theorem leftAt_of_split {reply rest : List BackendMessage} {taken rest' : List Entry}
    {entry : Entry}
    (hReply : Interleaves (taken ++ entry :: rest') reply) (hRest : Interleaves rest' rest)
    (hSync : entry.isAsync = false) : LeftAt (taken ++ entry :: rest') reply rest rest' := by
  refine ⟨hRest, ?_⟩
  simp only [Interleaves, List.filter_append, List.filter_cons, hSync, Bool.not_false, if_true]
    at hReply hRest
  rw [hRest] at hReply
  obtain ⟨read, later, rfl, hRead, hLater⟩ := List.map_eq_append_iff.mp hReply.symm
  obtain ⟨message, rest'', rfl, hMessage, hRest''⟩ := List.map_eq_cons_iff.mp hLater
  have hRest : rest'' = rest := by
    apply List.map_injective_iff.mpr (fun _ _ h => Except.ok.inj h) hRest''
  subst hMessage hRest
  exact ⟨taken, message, read, rfl, rfl⟩

/-- A loop over a reply stops where its body stops on the reply alone. -/
theorem Detached.drive (h : Detached body) {reply : List BackendMessage} {entries : List Entry}
    (hReply : Interleaves entries reply) (l : L) (conn : Connection) :
    match Drive.drive (localStep body) l reply with
    | .waiting l' => ∃ conn',
        Drive.drive (readStep body) (l, conn) entries = .waiting (l', conn')
    | .done result l' rest => ∃ conn' rest', LeftAt entries reply rest rest' ∧
        Drive.drive (readStep body) (l, conn) entries = .done result (l', conn') rest' := by
  have hMap := drive_map (localRead body) (Except.ok (ε := ReadError)) l reply
  have hFollows := h.follows.drive (l, conn) entries
  rw [hReply, hMap, show (fun l message => localRead body l (.ok message)) =
    localStep body from rfl]
    at hFollows
  revert hFollows
  cases hDrive : Drive.drive (readStep body) (l, conn) entries with
  | waiting s' =>
      cases Drive.drive (localStep body) l reply with
      | waiting l' =>
          intro hFollows
          cases hFollows
          exact ⟨s'.2, rfl⟩
      | done result l' rest => exact fun hFollows => nomatch hFollows
  | done result s' rest' =>
      cases Drive.drive (localStep body) l reply with
      | waiting l' => exact fun hFollows => nomatch hFollows
      | done result' l' rest =>
          intro hFollows
          simp only [Stop.done.injEq] at hFollows
          obtain ⟨rfl, rfl, hRest⟩ := hFollows
          obtain ⟨taken, entry, s'', rfl, _, hExit⟩ := drive_done_split _ hDrive
          have hSync : entry.isAsync = false := by
            by_contra hAsync
            have hNext := h.follows.unseen s'' entry (by simpa using hAsync)
            rw [hExit] at hNext
            cases hNext
          exact ⟨s'.2, rest', leftAt_of_split hReply hRest.symm hSync, rfl⟩

/-- The loop itself, where the reply makes it leave. -/
theorem Detached.messageLoop_done (h : Detached body) (net : Network) (s : L × Connection)
    {reply rest : List BackendMessage} {result : Except PgError β} {l : L}
    (hReply : Interleaves s.2.transport.inbox reply)
    (hDrive : Drive.drive (localStep body) s.1 reply = .done result l rest) :
    ∃ conn, messageLoop body net s = (Outcome.ofExcept result, (l, conn)) ∧
      LeftAt s.2.transport.inbox reply rest conn.transport.inbox := by
  have hLoop := h.drive hReply s.1 s.2
  rw [hDrive] at hLoop
  obtain ⟨conn, rest', hLeft, hLoop⟩ := hLoop
  exact ⟨conn.setInbox rest', by simp only [messageLoop, hLoop], hLeft⟩

/-- The loop itself, where the reply does not make it leave and the stream stays open. -/
theorem Detached.messageLoop_waiting (h : Detached body) (net : Network) (s : L × Connection)
    {reply : List BackendMessage} {l : L} (hReply : Interleaves s.2.transport.inbox reply)
    (hDrive : Drive.drive (localStep body) s.1 reply = .waiting l)
    (hOpen : s.2.transport.ending = none) :
    (messageLoop body net s).1 = .pending := by
  have hLoop := h.drive hReply s.1 s.2
  rw [hDrive] at hLoop
  obtain ⟨conn, hLoop⟩ := hLoop
  simp only [messageLoop, hLoop, hOpen]

end Connection
end PgClient
