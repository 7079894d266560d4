import PgClient.Effects.Recorded
import PgClient.Notification.Fallback

/-!
Whatever reads on a connection adds to its queue the notifications among what it reads, in
their order, and takes none away.
-/

namespace PgClient

open Drive Async Connection

def Entry.notification? : Entry → Option Notification
  | .ok (.notificationResponse body) =>
      some { processId := body.processId, channel := body.channel.getD "",
             payload := body.message.getD "" }
  | _ => none

/-- The notifications among some entries. -/
def notificationsIn (entries : List Entry) : List Notification :=
  entries.filterMap Entry.notification?

@[simp] theorem notificationsIn_nil : notificationsIn [] = [] := rfl

@[simp] theorem notificationsIn_append (entries later : List Entry) :
    notificationsIn (entries ++ later) = notificationsIn entries ++ notificationsIn later :=
  List.filterMap_append

theorem notificationsIn_cons (entry : Entry) (entries : List Entry) :
    notificationsIn (entry :: entries) = notificationsIn [entry] ++ notificationsIn entries :=
  notificationsIn_append [entry] entries

theorem notificationsIn_message (message : BackendMessage) (h : message.isAsync = false) :
    notificationsIn [.ok message] = [] := by
  cases message with
  | notificationResponse body => cases h
  | _ => rfl

namespace Connection

/-- From one connection to the other nothing but `read` has been read, and its notifications
are queued. -/
def Heard (net : Network) (conn conn' : Connection) (read : List Entry) : Prop :=
  (∃ delivered, Transport.Passed net conn.transport conn'.transport delivered read) ∧
    conn'.notificationQueue = conn.notificationQueue ++ notificationsIn read

/-- The queue after an entry has been read. -/
def queued (queue : List Notification) (entry : Entry) : List Notification :=
  queue ++ notificationsIn [entry]

theorem foldl_queued (read : List Entry) (queue : List Notification) :
    read.foldl queued queue = queue ++ notificationsIn read := by
  induction read generalizing queue with
  | nil => simp
  | cons entry read ih =>
      rw [List.foldl_cons, ih, queued, notificationsIn_cons entry read, List.append_assoc]

theorem recorded_queue : Recorded notificationQueue queued where
  aside h := congrArg Aside.notificationQueue h
  transport _ _ := rfl
  async := by
    intro conn conn' message h
    cases message with
    | notificationResponse body =>
        cases h
        rfl
    | noticeResponse body =>
        simp only [handleAsyncMessage] at h
        split at h <;> cases h <;> exact (List.append_nil _).symm
    | parameterStatus body =>
        simp only [handleAsyncMessage] at h
        split at h <;> cases h <;> exact (List.append_nil _).symm
    | _ => cases h
  other queue message h := by
    rw [queued, notificationsIn_message message h]
    exact List.append_nil queue
  error queue _ := List.append_nil queue

section Heard

variable {net : Network} {conn conn' conn'' : Connection} {read later : List Entry}

theorem heard_iff_follows :
    Heard net conn conn' read ↔ Follows notificationQueue queued net conn conn' read := by
  rw [Heard, Follows, foldl_queued]

theorem heard_refl (net : Network) (conn : Connection) : Heard net conn conn [] :=
  heard_iff_follows.mpr (follows_refl net conn)

theorem Heard.trans (h : Heard net conn conn' read) (h' : Heard net conn' conn'' later) :
    Heard net conn conn'' (read ++ later) :=
  heard_iff_follows.mpr ((heard_iff_follows.mp h).trans (heard_iff_follows.mp h'))

theorem heard_of_aside (h : conn'.aside = conn.aside) : Heard net conn conn' [] :=
  heard_iff_follows.mpr (recorded_queue.follows_of_aside h)

theorem heard_push (net : Network) (conn : Connection) (frame : Frame) :
    Heard net conn { conn with transport := conn.transport.push frame } [] :=
  heard_iff_follows.mpr (recorded_queue.follows_push net conn frame)

theorem heard_flushWrite {t : Transport} (h : conn.transport.flushWrite net = .ok t) :
    Heard net conn { conn with transport := t } [] :=
  heard_iff_follows.mpr (recorded_queue.follows_flushWrite h)

end Heard

/-- What sending does: it reads nothing. -/
def Emits {α : Type} (x : Client α) : Prop :=
  ∀ net conn, Heard net conn (x net conn).2 [] ∧
    ∃ t, (x net conn).2 = { conn with transport := t }

theorem emits_bind {α β : Type} {x : Client α} {f : α → Client β} (hx : Emits x)
    (hf : ∀ a, Emits (f a)) : Emits (x >>= f) := by
  refine @related_bind _ Connection _ _ _ (fun net conn conn' =>
    Heard net conn conn' [] ∧ ∃ t, conn' = { conn with transport := t }) ?_ _ _ hx hf
  intro net conn conn' conn'' hFirst hNext
  obtain ⟨hHeard, t, hState⟩ := hFirst
  obtain ⟨hHeard', t', hState'⟩ := hNext
  refine ⟨hHeard.trans hHeard', t', ?_⟩
  rw [hState', hState]

theorem emits_encodeAndWrite (message : FrontendMessage) : Emits (encodeAndWrite message) := by
  intro net conn
  rw [encodeAndWrite_apply]
  cases net.encode message with
  | error e => exact ⟨heard_refl net conn, _, rfl⟩
  | ok bytes =>
      have hPush := heard_push net conn { message, bytes }
      simp only [writeAll]
      split
      · cases hFlush : (conn.transport.push { message, bytes }).flushWrite net with
        | error e => exact ⟨hPush, _, rfl⟩
        | ok t =>
            have hSent : Heard net { conn with transport := conn.transport.push { message, bytes } }
                { conn with transport := t } [] := heard_flushWrite hFlush
            exact ⟨hPush.trans hSent, t, rfl⟩
      · exact ⟨hPush, _, rfl⟩

theorem emits_flush : Emits flush := by
  intro net conn
  simp only [flush]
  cases hFlush : conn.transport.flushWrite net with
  | error e => exact ⟨heard_refl net conn, _, rfl⟩
  | ok t =>
      dsimp only
      cases net.flushError t.history <;> exact ⟨heard_flushWrite hFlush, t, rfl⟩

theorem emits_send (message : FrontendMessage) : Emits (send message) :=
  emits_bind (emits_encodeAndWrite message) fun _ => emits_flush

/-- However it ends, what it has read of notifications is in the queue. -/
def Queues {α : Type} (x : Client α) : Prop :=
  ∀ net conn, ∃ read, Heard net conn (x net conn).2 read

def OwnerQueues {L α : Type} (x : Owner L α) : Prop :=
  ∀ net s, ∃ read, Heard net s.2 (x net s).2.2 read

theorem queues_eq : @Queues = @Records _ notificationQueue queued := by
  funext α x
  simp only [Queues, Records, heard_iff_follows]

theorem ownerQueues_eq : @OwnerQueues = @OwnerRecords _ notificationQueue queued := by
  funext L α x
  simp only [OwnerQueues, OwnerRecords, heard_iff_follows]

theorem queues_rules : Rules @Queues @OwnerQueues := by
  rw [queues_eq, ownerQueues_eq]
  exact recorded_queue.rules

end Connection
end PgClient
