import PgClient.Query.Cursor
import PgClient.Query.Pipeline
import PgClient.Copy.Stream
import PgClient.Transaction.Guard

/-!
How the operations are made: read loops that take asynchronous messages first, sends, and
changes of the connection that see nothing of the wire or of what those messages leave.
What every such part has, and what puts parts together keeps, every operation has.
-/

namespace PgClient

open Drive Async

/-- The wire, and what is recorded of the parameters, notifications and notices that come
with a reply. -/
structure Aside where
  transport : Transport
  serverVersion : String
  serverEncoding : String
  clientEncoding : String
  params : List (String × String)
  notificationQueue : List Notification
  noticeHandler : Option (List Notice)

namespace Connection

def aside (conn : Connection) : Aside where
  transport := conn.transport
  serverVersion := conn.serverParams.serverVersion
  serverEncoding := conn.serverParams.serverEncoding
  clientEncoding := conn.serverParams.clientEncoding
  params := conn.serverParams.params
  notificationQueue := conn.notificationQueue
  noticeHandler := conn.noticeHandler

/-- The rest of a connection over other such parts. -/
def overlay (conn : Connection) (a : Aside) : Connection :=
  { conn with
    transport := a.transport
    serverParams.serverVersion := a.serverVersion
    serverParams.serverEncoding := a.serverEncoding
    serverParams.clientEncoding := a.clientEncoding
    serverParams.params := a.params
    notificationQueue := a.notificationQueue
    noticeHandler := a.noticeHandler }

@[simp] theorem overlay_aside (conn : Connection) : conn.overlay conn.aside = conn := rfl

@[simp] theorem aside_overlay (conn : Connection) (a : Aside) : (conn.overlay a).aside = a := rfl

@[simp] theorem overlay_overlay (conn : Connection) (a b : Aside) :
    (conn.overlay a).overlay b = conn.overlay b := rfl

variable {L α β : Type}

/-- A loop that takes asynchronous messages first, and does with any other message what it
does whatever the wire and the asynchronous messages have left, which it leaves alone. -/
def Plain
    (body : L × Connection → BackendMessage → Step (L × Connection) (Except PgError β)) : Prop :=
  ∃ other : L × Connection → BackendMessage → Step (L × Connection) (Except PgError β),
    body = asyncFirst other ∧ ∀ l conn a message,
      other (l, conn.overlay a) message =
        (other (l, conn) message).map fun s => (s.1, s.2.overlay a)

/-- A property of the parts that operations are made of. -/
structure Rules (client : ∀ {α : Type}, Client α → Prop)
    (owner : ∀ {L α : Type}, Owner L α → Prop) : Prop where
  pure : ∀ {α : Type} (a : α), client (pure a : Client α)
  fail : ∀ {α : Type} (e : PgError), client (Async.fail e : Client α)
  bind : ∀ {α β : Type} {x : Client α} {f : α → Client β}, client x → (∀ a, client (f a)) →
    client (x >>= f)
  attempt : ∀ {α : Type} {x : Client α}, client x → client x.attempt
  get : ∀ {β : Type} {k : Connection → Client β}, (∀ conn a, k (conn.overlay a) = k conn) →
    (∀ conn, client (k conn)) → client (Async.get >>= k)
  types : ∀ {β : Type} {k : (Oid → Option Oid) → Client β}, (∀ types, client (k types)) →
    client (Async.env >>= fun net => k net.typeFromOid)
  modify : ∀ {f : Connection → Connection}, (∀ conn a, f (conn.overlay a) = (f conn).overlay a) →
    client (Async.modify f)
  write : ∀ message, client (encodeAndWrite message)
  flush : client Connection.flush
  shutdown : client Connection.shutdown
  owned : ∀ {L α : Type} {l : L} {drop : L → Connection → Connection} {x : Owner L α},
    (∀ l conn a, drop l (conn.overlay a) = (drop l conn).overlay a) → owner x →
    client fun net conn => ((x net (l, conn)).1, drop (x net (l, conn)).2.1 (x net (l, conn)).2.2)
  ownerPure : ∀ {L α : Type} (a : α), owner (Pure.pure a : Owner L α)
  ownerFail : ∀ {L α : Type} (e : PgError), owner (Async.fail e : Owner L α)
  ownerWait : ∀ {L α : Type}, owner (Async.wait : Owner L α)
  ownerBind : ∀ {L α β : Type} {x : Owner L α} {f : α → Owner L β}, owner x →
    (∀ a, owner (f a)) → owner (x >>= f)
  ownerAttempt : ∀ {L α : Type} {x : Owner L α}, owner x → owner x.attempt
  ownerGet : ∀ {L β : Type} {k : L × Connection → Owner L β},
    (∀ l conn a, k (l, conn.overlay a) = k (l, conn)) → (∀ s, owner (k s)) → owner (Async.get >>= k)
  ownerModify : ∀ {L : Type} {f : L × Connection → L × Connection},
    (∀ l conn a, f (l, conn.overlay a) = ((f (l, conn)).1, (f (l, conn)).2.overlay a)) →
    owner (Async.modify f)
  onSnd : ∀ {L α : Type} {x : Client α}, client x → owner (Async.onSnd x : Owner L α)
  withExtra : ∀ {L M α : Type} {m : M} {x : Owner (L × M) α}, owner x →
    owner (Async.withExtra m x : Owner L (α × M))
  loop : ∀ {L β : Type}
    {body : L × Connection → BackendMessage → Step (L × Connection) (Except PgError β)},
    Plain body → owner (messageLoop body)
  fueled : ∀ {L α : Type} {x : Nat → Owner L α}, (∀ fuel, owner (x fuel)) →
    (∀ net s fuel more, s.2.transport.inbox.length < fuel → fuel ≤ more →
      x fuel net s = x more net s) →
    owner fun net s => x (s.2.transport.inbox.length + 1) net s

/-- The connection that a step of a loop leaves. -/
def stepConn {γ : Type} : Step (L × Connection) γ → Connection
  | .next s => s.2
  | .exit _ s => s.2

/-- Such a loop that leaves the counter of the names alone. -/
def Nameless
    (body : L × Connection → BackendMessage → Step (L × Connection) (Except PgError β)) : Prop :=
  Plain body ∧ ∀ s message, (stepConn (body s message)).statementCounter = s.2.statementCounter

/-- A property of the parts that operations are made of but for the drawing of a name. -/
structure Parts (client : ∀ {α : Type}, Client α → Prop)
    (owner : ∀ {L α : Type}, Owner L α → Prop) : Prop where
  pure : ∀ {α : Type} (a : α), client (pure a : Client α)
  fail : ∀ {α : Type} (e : PgError), client (Async.fail e : Client α)
  bind : ∀ {α β : Type} {x : Client α} {f : α → Client β}, client x → (∀ a, client (f a)) →
    client (x >>= f)
  attempt : ∀ {α : Type} {x : Client α}, client x → client x.attempt
  get : ∀ {β : Type} {k : Connection → Client β}, (∀ conn a, k (conn.overlay a) = k conn) →
    (∀ conn, client (k conn)) → client (Async.get >>= k)
  types : ∀ {β : Type} {k : (Oid → Option Oid) → Client β}, (∀ types, client (k types)) →
    client (Async.env >>= fun net => k net.typeFromOid)
  modify : ∀ {f : Connection → Connection}, (∀ conn a, f (conn.overlay a) = (f conn).overlay a) →
    (∀ conn, (f conn).statementCounter = conn.statementCounter) → client (Async.modify f)
  write : ∀ message, client (encodeAndWrite message)
  flush : client Connection.flush
  shutdown : client Connection.shutdown
  owned : ∀ {L α : Type} {l : L} {drop : L → Connection → Connection} {x : Owner L α},
    (∀ l conn a, drop l (conn.overlay a) = (drop l conn).overlay a) →
    (∀ l conn, (drop l conn).statementCounter = conn.statementCounter) → owner x →
    client fun net conn => ((x net (l, conn)).1, drop (x net (l, conn)).2.1 (x net (l, conn)).2.2)
  ownerPure : ∀ {L α : Type} (a : α), owner (Pure.pure a : Owner L α)
  ownerFail : ∀ {L α : Type} (e : PgError), owner (Async.fail e : Owner L α)
  ownerWait : ∀ {L α : Type}, owner (Async.wait : Owner L α)
  ownerBind : ∀ {L α β : Type} {x : Owner L α} {f : α → Owner L β}, owner x →
    (∀ a, owner (f a)) → owner (x >>= f)
  ownerAttempt : ∀ {L α : Type} {x : Owner L α}, owner x → owner x.attempt
  ownerGet : ∀ {L β : Type} {k : L × Connection → Owner L β},
    (∀ l conn a, k (l, conn.overlay a) = k (l, conn)) → (∀ s, owner (k s)) → owner (Async.get >>= k)
  ownerModify : ∀ {L : Type} {f : L × Connection → L × Connection},
    (∀ l conn a, f (l, conn.overlay a) = ((f (l, conn)).1, (f (l, conn)).2.overlay a)) →
    (∀ s, (f s).2.statementCounter = s.2.statementCounter) → owner (Async.modify f)
  onSnd : ∀ {L α : Type} {x : Client α}, client x → owner (Async.onSnd x : Owner L α)
  withExtra : ∀ {L M α : Type} {m : M} {x : Owner (L × M) α}, owner x →
    owner (Async.withExtra m x : Owner L (α × M))
  loop : ∀ {L β : Type}
    {body : L × Connection → BackendMessage → Step (L × Connection) (Except PgError β)},
    Nameless body → owner (messageLoop body)
  fueled : ∀ {L α : Type} {x : Nat → Owner L α}, (∀ fuel, owner (x fuel)) →
    (∀ net s fuel more, s.2.transport.inbox.length < fuel → fuel ≤ more →
      x fuel net s = x more net s) →
    owner fun net s => x (s.2.transport.inbox.length + 1) net s

theorem Rules.parts {client : ∀ {α : Type}, Client α → Prop}
    {owner : ∀ {L α : Type}, Owner L α → Prop} (h : Rules client owner) : Parts client owner where
  pure := h.pure
  fail := h.fail
  bind := h.bind
  attempt := h.attempt
  get := h.get
  types := h.types
  modify hf _ := h.modify hf
  write := h.write
  flush := h.flush
  shutdown := h.shutdown
  owned hDrop _ := h.owned hDrop
  ownerPure := h.ownerPure
  ownerFail := h.ownerFail
  ownerWait := h.ownerWait
  ownerBind := h.ownerBind
  ownerAttempt := h.ownerAttempt
  ownerGet := h.ownerGet
  ownerModify hf _ := h.ownerModify hf
  onSnd := h.onSnd
  withExtra := h.withExtra
  loop hBody := h.loop hBody.1
  fueled := h.fueled

/-- What a connection goes through at an asynchronous message. -/
theorem statementCounter_of_handleAsyncMessage {conn conn' : Connection} {message : BackendMessage}
    (h : conn.handleAsyncMessage message = some conn') :
    conn'.statementCounter = conn.statementCounter := by
  cases message with
  | noticeResponse body =>
      simp only [handleAsyncMessage] at h
      split at h <;> cases h <;> rfl
  | parameterStatus body =>
      simp only [handleAsyncMessage] at h
      split at h <;> cases h <;> rfl
  | notificationResponse body =>
      cases h
      rfl
  | _ => cases h

theorem nameless_of
    {other : L × Connection → BackendMessage → Step (L × Connection) (Except PgError β)}
    (h : ∀ l conn a message,
      other (l, conn.overlay a) message =
        (other (l, conn) message).map (fun s => (s.1, s.2.overlay a)) ∧
      (stepConn (other (l, conn) message)).statementCounter = conn.statementCounter) :
    Nameless (asyncFirst other) := by
  refine ⟨⟨other, rfl, fun l conn a message => (h l conn a message).1⟩, ?_⟩
  intro ⟨l, conn⟩ message
  rw [asyncFirst]
  cases hAsync : conn.handleAsyncMessage message with
  | some conn' => exact statementCounter_of_handleAsyncMessage hAsync
  | none => exact (h l conn conn.aside message).2

section Bodies

variable {α : Type}

theorem nameless_readUntilReady : Nameless readUntilReadyBody := by
  apply nameless_of
  intro value conn a message
  cases message <;> exact ⟨rfl, rfl⟩

theorem nameless_batch : Nameless batchBody := by
  apply nameless_of
  intro batch conn a message
  cases message with
  | rowDescription fields => cases fields <;> exact ⟨rfl, rfl⟩
  | dataRow values => cases values <;> exact ⟨rfl, rfl⟩
  | _ => exact ⟨rfl, rfl⟩

theorem nameless_extended : Nameless extendedBody := by
  apply nameless_of
  intro reply conn a message
  cases message with
  | rowDescription fields => cases fields <;> exact ⟨rfl, rfl⟩
  | dataRow values => cases values <;> exact ⟨rfl, rfl⟩
  | _ => exact ⟨rfl, rfl⟩

theorem nameless_preamble : Nameless preambleBody := by
  apply nameless_of
  intro value conn a message
  cases message with
  | rowDescription fields => cases fields <;> exact ⟨rfl, rfl⟩
  | _ => exact ⟨rfl, rfl⟩

theorem nameless_prepare (typeFromOid : Oid → Option Oid) : Nameless (prepareBody typeFromOid) := by
  apply nameless_of
  intro prep conn a message
  cases message with
  | parameterDescription types => cases types <;> exact ⟨rfl, rfl⟩
  | rowDescription fields => cases fields <;> exact ⟨rfl, rfl⟩
  | _ => exact ⟨rfl, rfl⟩

theorem nameless_complete : Nameless completeBody := by
  apply nameless_of
  intro value conn a message
  cases message <;> exact ⟨rfl, rfl⟩

theorem nameless_cursorOpen : Nameless cursorOpenBody := by
  apply nameless_of
  intro columns conn a message
  cases message with
  | rowDescription fields => cases fields <;> exact ⟨rfl, rfl⟩
  | _ => exact ⟨rfl, rfl⟩

theorem nameless_fetch : Nameless Cursor.fetchBody := by
  apply nameless_of
  intro (cursor, rows) conn a message
  cases message with
  | rowDescription fields => cases fields <;> exact ⟨rfl, rfl⟩
  | dataRow values => cases values <;> exact ⟨rfl, rfl⟩
  | _ => exact ⟨rfl, rfl⟩

theorem nameless_cursorBatch : Nameless CursorStream.batchBody := by
  apply nameless_of
  intro (stream, batch) conn a message
  cases message with
  | rowDescription fields => cases fields <;> exact ⟨rfl, rfl⟩
  | dataRow values => cases values <;> exact ⟨rfl, rfl⟩
  | _ => exact ⟨rfl, rfl⟩

theorem nameless_pipeline : Nameless Pipeline.readBody := by
  apply nameless_of
  intro read conn a message
  cases message with
  | rowDescription fields => cases fields <;> exact ⟨rfl, rfl⟩
  | dataRow values => cases values <;> exact ⟨rfl, rfl⟩
  | _ => exact ⟨rfl, rfl⟩

theorem nameless_copyStart (response : BackendMessage → Option CopyResponseBody) :
    Nameless (copyStartBody response) := by
  apply nameless_of
  intro value conn a message
  cases response message with
  | some body =>
      dsimp only
      cases ioResult body.columnFormats <;> exact ⟨rfl, rfl⟩
  | none => cases message <;> exact ⟨rfl, rfl⟩

theorem nameless_finish : Nameless CopyIn.finishBody := by
  apply nameless_of
  intro rows conn a message
  cases message <;> exact ⟨rfl, rfl⟩

theorem nameless_copyRead : Nameless CopyOut.readBody := by
  apply nameless_of
  intro copy conn a message
  cases message <;> exact ⟨rfl, rfl⟩

theorem nameless_next : Nameless RowStream.nextBody := by
  apply nameless_of
  intro ⟨columns, state⟩ conn a message
  cases message with
  | rowDescription fields => cases state <;> cases fields <;> exact ⟨rfl, rfl⟩
  | dataRow values => cases state <;> cases values <;> exact ⟨rfl, rfl⟩
  | _ => cases state <;> exact ⟨rfl, rfl⟩

end Bodies

end Connection
end PgClient
