import PgClient.Notification.Queue

/-!
Runs of everything that is done with an established connection, with the notifications that
have been handed to the application: those and the queue are what has been read, unless a
wait gives up a notification that it holds.
-/

namespace PgClient

open Drive Async Connection

namespace Connection

/-- The notifications in the value of an outcome. -/
def handed {β : Type} (hand : β → List Notification) : Outcome PgError β → List Notification
  | .ok b => hand b
  | _ => []

/-- What has been read of notifications by then is handed over or queued, in that order, if
and only if `kept`. -/
def Accounts (net : Network) (conn : Connection) (x : Client (List Notification)) (kept : Prop) :
    Prop :=
  ∃ delivered read,
    Transport.Passed net conn.transport (x net conn).2.transport delivered read ∧
      (conn.notificationQueue ++ notificationsIn read =
        handed id (x net conn).1 ++ (x net conn).2.notificationQueue ↔ kept)

/-- The cycle cannot be read to its end. -/
def unfinished (entries : List Entry) : Bool :=
  match skipReply entries with
  | .failed _ _ => false
  | _ => true

/-- The first notification that a cycle brings comes before any `ReadyForQuery`, and the rest
of the cycle cannot be read to its end. -/
def strands : List Entry → Bool
  | [] => false
  | .error _ :: _ => false
  | .ok (.readyForQuery _) :: _ => false
  | .ok (.notificationResponse _) :: rest => unfinished rest
  | .ok _ :: rest => strands rest

section Waits

variable {net : Network} {conn conn' : Connection}

theorem accounts_notifications : Accounts net conn notifications True :=
  ⟨[], [], Transport.passed_refl net _, by simp [notifications, handed]⟩

/-- A wait, with what it hands over as a list. -/
def waiting (x : Client (Option Notification)) : Client (List Notification) := do
  let notification ← x
  return notification.toList

/-- A round of a loop that puts nothing in the queue: it hands over what it reads. -/
structure Round (conn : Connection) (entry : Entry) (handed : List Notification)
    (conn' : Connection) : Prop where
  transport : conn'.transport = conn.transport
  queue : conn'.notificationQueue = conn.notificationQueue
  notifications : notificationsIn [entry] = handed

/-- What a loop hands over when it leaves. -/
def handOver {β : Type} (hand : β → List Notification) : Except PgError β → List Notification
  | .ok b => hand b
  | .error _ => []

def RoundOf {β : Type} (hand : β → List Notification) (conn : Connection) (entry : Entry) :
    Step (Unit × Connection) (Except PgError β) → Prop
  | .next s => Round conn entry [] s.2
  | .exit result s => Round conn entry (handOver hand result) s.2

theorem round_notification (s : Unit × Connection) (entry : Entry) :
    RoundOf (fun notification => [notification]) s.2 entry
      (readStep notificationBody s entry) := by
  cases entry with
  | error e => exact ⟨rfl, rfl, rfl⟩
  | ok message =>
      cases message with
      | noticeResponse body =>
          simp only [readStep, notificationBody_noticeResponse]
          cases PgServerError.fromBody body <;> exact ⟨rfl, rfl, rfl⟩
      | parameterStatus body =>
          simp only [readStep, notificationBody_parameterStatus]
          split <;> exact ⟨rfl, rfl, rfl⟩
      | _ => exact ⟨rfl, rfl, rfl⟩

theorem round_emptyCycle (s : Unit × Connection) (entry : Entry) :
    RoundOf Option.toList s.2 entry (readStep emptyCycleBody s entry) := by
  cases entry with
  | error e => exact ⟨rfl, rfl, rfl⟩
  | ok message =>
      cases message with
      | noticeResponse body =>
          simp only [readStep, emptyCycleBody]
          cases PgServerError.fromBody body <;> exact ⟨rfl, rfl, rfl⟩
      | parameterStatus body =>
          simp only [readStep, emptyCycleBody]
          split <;> exact ⟨rfl, rfl, rfl⟩
      | _ => exact ⟨rfl, rfl, rfl⟩

section Loops

variable {β : Type} {hand : β → List Notification}
  {body : Unit × Connection → BackendMessage → Step (Unit × Connection) (Except PgError β)}

theorem drive_rounds (hBody : ∀ s entry, RoundOf hand s.2 entry (readStep body s entry))
    (s : Unit × Connection) (entries : List Entry) :
    match drive (readStep body) s entries with
    | .waiting s' => s'.2.transport = s.2.transport ∧
        s'.2.notificationQueue = s.2.notificationQueue ∧ notificationsIn entries = []
    | .done result s' rest => ∃ taken, entries = taken ++ rest ∧
        s'.2.transport = s.2.transport ∧ s'.2.notificationQueue = s.2.notificationQueue ∧
        notificationsIn taken = handOver hand result := by
  induction entries generalizing s with
  | nil => exact ⟨rfl, rfl, rfl⟩
  | cons entry entries ih =>
      have hRound := hBody s entry
      cases hStep : readStep body s entry with
      | next s' =>
          rw [hStep] at hRound
          obtain ⟨hTransport, hQueue, hNone⟩ := hRound
          have hDrive := ih s'
          rw [drive_cons_next _ entries hStep]
          revert hDrive
          cases drive (readStep body) s' entries with
          | waiting s'' =>
              rintro ⟨hTransport', hQueue', hNone'⟩
              rw [notificationsIn_cons, hNone, hNone']
              exact ⟨hTransport'.trans hTransport, hQueue'.trans hQueue, rfl⟩
          | done result s'' rest =>
              rintro ⟨taken, rfl, hTransport', hQueue', hTaken⟩
              refine ⟨entry :: taken, rfl, hTransport'.trans hTransport, hQueue'.trans hQueue, ?_⟩
              rw [notificationsIn_cons, hNone, hTaken]
              rfl
      | exit result s' =>
          rw [hStep] at hRound
          rw [drive_cons_exit _ entries hStep]
          exact ⟨[entry], rfl, hRound.transport, hRound.queue, hRound.notifications⟩

end Loops

/-- Nothing is queued, and what is read of notifications is handed over. -/
def HandsOver {β : Type} (hand : β → List Notification) (net : Network) (conn : Connection)
    (x : Client β) : Prop :=
  ∃ read, Transport.Passed net conn.transport (x net conn).2.transport [] read ∧
    (x net conn).2.notificationQueue = conn.notificationQueue ∧
    notificationsIn read = handed hand (x net conn).1

theorem handsOver_loop {β : Type} {hand : β → List Notification}
    {body : Unit × Connection → BackendMessage → Step (Unit × Connection) (Except PgError β)}
    (hBody : ∀ s entry, RoundOf hand s.2 entry (readStep body s entry)) (net : Network)
    (conn : Connection) : HandsOver hand net conn (Async.withLocal () (messageLoop body)) := by
  have hDrive := drive_rounds hBody ((), conn) conn.transport.inbox
  simp only [HandsOver, withLocal_apply, messageLoop]
  revert hDrive
  cases drive (readStep body) ((), conn) conn.transport.inbox with
  | waiting s' =>
      rintro ⟨hTransport, hQueue, hNone⟩
      have hPassed : Transport.Passed net conn.transport (s'.2.setInbox []).transport []
          conn.transport.inbox := by
        rw [setInbox, hTransport]
        exact Transport.passed_take net (by simp)
      cases conn.transport.ending <;> exact ⟨_, hPassed, hQueue, hNone⟩
  | done result s' rest =>
      rintro ⟨taken, hInbox, hTransport, hQueue, hTaken⟩
      refine ⟨taken, ?_, hQueue, ?_⟩
      · change Transport.Passed net conn.transport (s'.2.setInbox rest).transport [] taken
        rw [setInbox, hTransport]
        exact Transport.passed_take net hInbox
      · rw [hTaken]
        cases result <;> rfl

/-- The same with the value in another form, on a connection with nothing queued. -/
theorem HandsOver.accounts {β : Type} {hand : β → List Notification} {x : Client β}
    (h : HandsOver hand net conn x) (hQueue : conn.notificationQueue = [])
    {y : Client (List Notification)} (hState : (y net conn).2 = (x net conn).2)
    (hHanded : handed id (y net conn).1 = handed hand (x net conn).1) :
      Accounts net conn y True := by
  obtain ⟨read, hPassed, hKept, hRead⟩ := h
  refine ⟨[], read, by rw [hState]; exact hPassed, ?_⟩
  rw [hState, hKept, hQueue, hRead, hHanded, List.nil_append, List.append_nil]
  exact iff_of_true rfl trivial

/-- A notification that is queued is handed over before anything is read. -/
theorem accounts_pop {notification : Notification} {queue : List Notification}
    (hQueue : conn.notificationQueue = notification :: queue) {x : Client (Option Notification)}
    (hRun : x net conn = (.ok (some notification), { conn with notificationQueue := queue })) :
    Accounts net conn (waiting x) True := by
  refine ⟨[], [], ?_, ?_⟩
  · simp only [waiting, bind_apply, hRun, andThen_ok, pure_apply]
    exact Transport.passed_refl net _
  · simp [waiting, hRun, handed, hQueue]

theorem handsOver_blocking (net : Network) (conn : Connection) :
    HandsOver (fun notification => [notification]) net conn readNextNotificationBlocking := by
  simp only [HandsOver, readNextNotificationBlocking, bind_apply, get_apply, andThen_ok]
  by_cases hIdle : (!conn.isIdle) = true
  · rw [failIf_pos hIdle]
    exact ⟨[], Transport.passed_refl net _, rfl, rfl⟩
  · rw [failIf_neg hIdle, pure_apply, andThen_ok]
    exact handsOver_loop round_notification net conn

theorem accounts_wait (net : Network) (conn : Connection) (timeout : Option Nat) :
    Accounts net conn (waiting (waitForNotification timeout)) True := by
  cases hQueue : conn.notificationQueue with
  | cons notification queue =>
      exact accounts_pop hQueue (by simp [waitForNotification, hQueue])
  | nil =>
      have hBlocking := handsOver_blocking net conn
      cases timeout with
      | none =>
          apply hBlocking.accounts hQueue
          · simp only [waiting, waitForNotification, bind_apply, get_apply, andThen_ok, hQueue]
            rcases readNextNotificationBlocking net conn with ⟨_ | _ | _, _⟩ <;> rfl
          · simp only [waiting, waitForNotification, bind_apply, get_apply, andThen_ok, hQueue]
            rcases readNextNotificationBlocking net conn with ⟨_ | _ | _, _⟩ <;> rfl
      | some timeout =>
          cases timeout with
          | zero =>
              simp only [Accounts, waiting, waitForNotification, bind_apply, get_apply, andThen_ok,
                hQueue]
              exact ⟨[], [], Transport.passed_refl net _, by simp [handed, hQueue]⟩
          | succ _ =>
              apply hBlocking.accounts hQueue
              · simp only [waiting, waitForNotification, beforeDeadline, bind_apply, get_apply,
                  andThen_ok, hQueue]
                rcases readNextNotificationBlocking net conn with ⟨_ | _ | _, _⟩ <;> rfl
              · simp only [waiting, waitForNotification, beforeDeadline, bind_apply, get_apply,
                  andThen_ok, hQueue]
                rcases readNextNotificationBlocking net conn with ⟨_ | _ | _, _⟩ <;> rfl

/-- The loop of an empty cycle comes to a notification that is stranded if there is one. -/
theorem drive_strands (s : Unit × Connection) (entries : List Entry) :
    match drive (readStep emptyCycleBody) s entries with
    | .done (.ok (some _)) _ rest => strands entries = unfinished rest
    | _ => strands entries = false := by
  induction entries generalizing s with
  | nil => rfl
  | cons entry entries ih =>
      cases entry with
      | error e => rfl
      | ok message =>
          cases message with
          | notificationResponse body => rfl
          | readyForQuery status => rfl
          | noticeResponse body =>
              have hNext : ∃ s', readStep emptyCycleBody s (.ok (.noticeResponse body)) =
                .next s' := by
                simp only [readStep, emptyCycleBody]
                cases PgServerError.fromBody body <;> exact ⟨_, rfl⟩
              obtain ⟨s', hNext⟩ := hNext
              rw [drive_cons_next _ entries hNext]
              exact ih s'
          | parameterStatus body =>
              have hNext : ∃ s', readStep emptyCycleBody s (.ok (.parameterStatus body)) =
                .next s' := by
                simp only [readStep, emptyCycleBody]
                split <;> exact ⟨_, rfl⟩
              obtain ⟨s', hNext⟩ := hNext
              rw [drive_cons_next _ entries hNext]
              exact ih s'
          | _ => exact ih _

theorem readUntilReady_ok_iff (net : Network) (conn : Connection) :
    (readUntilReady net conn).1 = .ok () ↔ unfinished conn.transport.inbox = false := by
  have hSkip := drive_readUntilReady conn.transport.inbox conn
  simp only [readUntilReady, withLocal_apply, messageLoop]
  revert hSkip
  cases drive (readStep readUntilReadyBody) ((), conn) conn.transport.inbox with
  | waiting s' =>
      rintro ⟨hShort, -⟩
      cases conn.transport.ending <;> simp [unfinished, hShort]
  | done result s' rest =>
      cases result with
      | ok value =>
          rintro ⟨status, hFailed, -⟩
          simp [unfinished, hFailed]
      | error e =>
          rintro ⟨hBroken, -, -⟩
          simp [unfinished, hBroken]

/-- A notification in hand, and what is read on until ready. -/
theorem accounts_inHand {taken : List Entry} {notification : Notification}
    (hPassed : Transport.Passed net conn.transport conn'.transport [] taken)
    (hQueue : conn.notificationQueue = []) (hKept : conn'.notificationQueue = [])
    (hTaken : notificationsIn taken = [notification]) {x : Client (List Notification)}
    (hRun : x net conn = waiting (do
      readUntilReady
      return some notification) net conn') :
    Accounts net conn x (unfinished conn'.transport.inbox = false) := by
  obtain ⟨read, ⟨delivered, hRead⟩, hHeard⟩ := queues_rules.parts.readUntilReady net conn'
  have hOk := readUntilReady_ok_iff net conn'
  simp only [waiting, bind_apply] at hRun
  revert hRun hRead hHeard hOk
  rcases readUntilReady net conn' with ⟨_ | _ | _, conn''⟩
  all_goals
    intro hRun hHeard hRead hOk
    refine ⟨_, _, by rw [hRun]; exact hPassed.trans hRead, ?_⟩
    simp only at hHeard
    simp [hRun, hQueue, hHeard, hKept, hTaken, handed, ← hOk]

/-- The loop of an empty cycle with nothing in hand, and the queue looked at then. -/
theorem accounts_emptyHanded {x : Client (List Notification)} {taken : List Entry}
    {outcome : Outcome PgError (List Notification)}
    (hPassed : Transport.Passed net conn.transport conn'.transport [] taken)
    (hQueue : conn.notificationQueue = []) (hKept : conn'.notificationQueue = [])
    (hTaken : notificationsIn taken = []) (hRun : x net conn = (outcome, conn'))
    (hHanded : handed id outcome = []) {kept : Prop} (hHolds : kept) : Accounts net conn x kept :=
  ⟨[], taken, by rw [hRun]; exact hPassed,
    by simp [hRun, hQueue, hKept, hTaken, hHanded, hHolds]⟩

theorem loop_strands (net : Network) (conn : Connection) :
    match Async.withLocal () (messageLoop emptyCycleBody) net conn with
    | (.ok (some _), conn') => strands conn.transport.inbox = unfinished conn'.transport.inbox
    | _ => strands conn.transport.inbox = false := by
  have hDrive := drive_strands ((), conn) conn.transport.inbox
  simp only [withLocal_apply, messageLoop]
  revert hDrive
  cases drive (readStep emptyCycleBody) ((), conn) conn.transport.inbox with
  | waiting s' => cases conn.transport.ending <;> exact id
  | done result s' rest =>
      cases result with
      | ok notification => cases notification <;> exact id
      | error e => exact id

/-- What an empty cycle does with what its loop comes to. -/
def afterLoop : Option Notification → Client (Option Notification)
  | some notification => do
      readUntilReady
      return some notification
  | none => do
      let conn ← .get
      match conn.notificationQueue with
      | notification :: queue =>
          .modify fun conn => { conn with notificationQueue := queue }
          return some notification
      | [] => return none

theorem accounts_emptyCycle (net : Network) (hQueue : conn.notificationQueue = []) :
    Accounts net conn (waiting emptyCycle) (strands conn.transport.inbox = false) := by
  have hStrands := loop_strands net conn
  obtain ⟨taken, hPassed, hKept, hTaken⟩ := handsOver_loop round_emptyCycle net conn
  rw [hQueue] at hKept
  have hRun : waiting emptyCycle net conn = andThen (fun notification => pure notification.toList)
      net (andThen afterLoop net (Async.withLocal () (messageLoop emptyCycleBody) net conn)) := rfl
  revert hStrands hPassed hKept hTaken hRun
  cases Async.withLocal () (messageLoop emptyCycleBody) net conn with
  | mk outcome conn' =>
      intro hStrands hPassed hKept hTaken hRun
      cases outcome with
      | ok notification =>
          cases notification with
          | some notification =>
              have hSame : strands conn.transport.inbox = unfinished conn'.transport.inbox :=
                hStrands
              rw [hSame]
              exact accounts_inHand hPassed hQueue hKept hTaken hRun
          | none =>
              have hLeft : conn'.notificationQueue = [] := hKept
              have hNone : waiting emptyCycle net conn = (.ok [], conn') := by
                rw [hRun]
                simp [afterLoop, hLeft]
              exact accounts_emptyHanded hPassed hQueue hKept hTaken hNone rfl hStrands
      | err e => exact accounts_emptyHanded hPassed hQueue hKept hTaken hRun rfl hStrands
      | pending => exact accounts_emptyHanded hPassed hQueue hKept hTaken hRun rfl hStrands

/-- The request of an empty cycle. -/
def requestCycle : Client Unit := do
  transition .activeSimpleQuery
  send (.query "")

/-- A wait by an empty query comes to hold a notification and fails, or is dropped, on the
rest of the cycle. -/
def Strands (net : Network) (conn : Connection) (timeout : Option Nat) : Prop :=
  conn.notificationQueue = [] ∧ timeout ≠ some 0 ∧
    ∃ conn', requestCycle net conn = (.ok (), conn') ∧ strands conn'.transport.inbox

theorem emits_requestCycle (net : Network) (conn : Connection) :
    Heard net conn (requestCycle net conn).2 [] ∧
      (requestCycle net conn).2.notificationQueue = conn.notificationQueue := by
  rw [requestCycle, bind_apply, transition]
  split
  · obtain ⟨hHeard, t, hState⟩ := emits_send (.query "") net (conn.setState .activeSimpleQuery)
    refine ⟨?_, by rw [andThen_ok, hState]; rfl⟩
    exact (heard_of_aside rfl : Heard net conn (conn.setState .activeSimpleQuery) []).trans hHeard
  · exact ⟨heard_refl net conn, rfl⟩

theorem fallback_eq {timeout : Option Nat} (hQueue : conn.notificationQueue = [])
    (hZero : timeout ≠ some 0) :
    waiting (waitForNotificationFallback timeout) net conn =
      andThen (fun _ => waiting emptyCycle) net (requestCycle net conn) := by
  simp only [waiting, waitForNotificationFallback, requestCycle, bind_apply, get_apply, andThen_ok,
    hQueue, if_neg hZero]
  rcases transition .activeSimpleQuery net conn with ⟨_ | _ | _, conn'⟩
  · simp only [andThen_ok, bind_apply]
    rcases send (.query "") net conn' with ⟨_ | _ | _, _⟩ <;> rfl
  · rfl
  · rfl

theorem accounts_fallback (net : Network) (conn : Connection) (timeout : Option Nat) :
    Accounts net conn (waiting (waitForNotificationFallback timeout))
      (¬ Strands net conn timeout) := by
  cases hQueue : conn.notificationQueue with
  | cons notification queue =>
      have hPop : Accounts net conn (waiting (waitForNotificationFallback timeout)) True :=
        accounts_pop hQueue (by simp [waitForNotificationFallback, hQueue])
      obtain ⟨delivered, read, hPassed, hKept⟩ := hPop
      exact ⟨delivered, read, hPassed, by simpa [Strands, hQueue] using hKept⟩
  | nil =>
      by_cases hZero : timeout = some 0
      · refine ⟨[], [], ?_, ?_⟩
        · simp only [waiting, waitForNotificationFallback, bind_apply, get_apply,
            andThen_ok, hQueue,
            if_pos hZero, pure_apply]
          exact Transport.passed_refl net _
        · simp [waiting, waitForNotificationFallback, hQueue, hZero, handed, Strands]
      · obtain ⟨⟨⟨delivered, hPassed⟩, -⟩, hKept⟩ := emits_requestCycle net conn
        have hRun := @fallback_eq net conn timeout hQueue hZero
        have hStrands : Strands net conn timeout ↔
            ∃ conn', requestCycle net conn = (.ok (), conn') ∧ strands conn'.transport.inbox := by
          simp [Strands, hQueue, hZero]
        rw [hQueue] at hKept
        rw [hStrands]
        revert hRun hPassed hKept
        match requestCycle net conn with
        | (.ok (), conn') =>
            intro (hKept : conn'.notificationQueue = []) hPassed hRun
            rw [andThen_ok] at hRun
            obtain ⟨delivered', read, hPassed', hIff⟩ := accounts_emptyCycle net hKept
            refine ⟨_, _, by rw [hRun]; exact hPassed.trans hPassed', ?_⟩
            rw [hKept, List.nil_append] at hIff
            rw [hRun, hQueue, List.nil_append, List.nil_append, hIff]
            simp
        | (.err e, conn') =>
            intro (hKept : conn'.notificationQueue = []) hPassed hRun
            exact ⟨_, _, by rw [hRun]; exact hPassed, by simp [hRun, hQueue, handed, hKept]⟩
        | (.pending, conn') =>
            intro (hKept : conn'.notificationQueue = []) hPassed hRun
            exact ⟨_, _, by rw [hRun]; exact hPassed, by simp [hRun, hQueue, handed, hKept]⟩

end Waits

end Connection

/-- A session in a run, with the notifications handed to the application so far and
everything that has been read since the run began. -/
structure Delivery where
  session : Session
  returned : List Notification
  received : List Entry

/-- A reconnect begins another connection; a wait is an event of its own. -/
def Action.ordinary : Action → Bool
  | .reconnect _ _ _ | .waitForNotification _ => false
  | _ => true

namespace Delivery

/-- What is done in a run, and messages that come unasked. -/
inductive Event where
  | arrival (entries : List Entry)
  | action (action : Action)
  | waitForNotification (timeout : Option Nat)
  | waitForNotificationFallback (timeout : Option Nat)
  | notifications

def conn (d : Delivery) : Connection := d.session.conn

def start (session : Session) : Delivery := { session, returned := [], received := [] }

/-- What comes unasked on a stream that has not ended. -/
def arrive (entries : List Entry) (d : Delivery) : Option Delivery :=
  match d.conn.transport.ending with
  | none =>
      some { d with session.conn := d.conn.setInbox (d.conn.transport.inbox ++ entries) }
  | some _ => none

/-- The step to another session, with what has been read in it. -/
def go (net : Network) (d : Delivery) (session : Session) (returned : List Notification) :
    Delivery where
  session
  returned := d.returned ++ returned
  received := d.received ++ Transport.readSince net d.conn.transport session.conn.transport

/-- An operation on the connection itself that hands over notifications. -/
def take (net : Network) (x : Client (List Notification)) (d : Delivery) : Option Delivery :=
  match d.session.handle with
  | .none => some (d.go net ⟨.none, (x net d.conn).2⟩ (handed id (x net d.conn).1))
  | _ => none

/-- One event; an operation that still waits has been dropped. -/
def step (net : Network) (d : Delivery) : Event → Option Delivery
  | .arrival entries => d.arrive entries
  | .action action =>
      if action.ordinary then
        (action.run ⟨net, d.session⟩).map fun result => d.go net result.2.session []
      else none
  | .waitForNotification timeout => d.take net (waiting (Connection.waitForNotification timeout))
  | .waitForNotificationFallback timeout =>
      d.take net (waiting (Connection.waitForNotificationFallback timeout))
  | .notifications => d.take net Connection.notifications

inductive Reaches (net : Network) (allowed : Delivery → Event → Prop) (first : Delivery) :
    Delivery → Prop where
  | start : Reaches net allowed first first
  | step {d d' : Delivery} {event : Event} (hReach : Reaches net allowed first d)
      (hAllowed : allowed d event) (hStep : d.step net event = some d') :
      Reaches net allowed first d'

/-- What has been handed over and what is queued are the notifications received. -/
def Exact (d : Delivery) : Prop :=
  d.returned ++ d.conn.notificationQueue = notificationsIn d.received

instance (d : Delivery) : Decidable d.Exact := inferInstanceAs (Decidable (_ = _))

/-- A wait by an empty query gives up a notification. -/
def GivesUp (net : Network) (d : Delivery) : Event → Prop
  | .waitForNotificationFallback timeout => Strands net d.conn timeout
  | _ => False

section Steps

variable {net : Network} {d d' : Delivery}

theorem exact_go (h : d.Exact) {session : Session} {returned : List Notification}
    {delivered : List FrontendMessage} {read : List Entry}
    (hPassed : Transport.Passed net d.conn.transport session.conn.transport delivered read) :
    (d.go net session returned).Exact ↔
      d.conn.notificationQueue ++ notificationsIn read =
        returned ++ session.conn.notificationQueue := by
  have hExact : notificationsIn (d.received ++ read) =
      d.returned ++ (d.conn.notificationQueue ++ notificationsIn read) := by
    rw [notificationsIn_append, ← h, List.append_assoc]
  have hGo : (d.go net session returned).received = d.received ++ read := by
    rw [go, hPassed.readSince]
  rw [Exact, hGo]
  change d.returned ++ returned ++ session.conn.notificationQueue =
    notificationsIn (d.received ++ read) ↔ _
  rw [hExact, List.append_assoc, List.append_cancel_left_eq]
  exact eq_comm

theorem exact_take (h : d.Exact) {x : Client (List Notification)} {kept : Prop}
    (hx : Accounts net d.conn x kept) (hStep : d.take net x = some d') : d'.Exact ↔ kept := by
  obtain ⟨delivered, read, hPassed, hKept⟩ := hx
  simp only [take] at hStep
  split at hStep
  · cases hStep
    exact (exact_go h hPassed).trans hKept
  · cases hStep

theorem exact_heard (h : d.Exact) {session : Session} {read : List Entry}
    (hHeard : Heard net d.conn session.conn read) : (d.go net session []).Exact := by
  obtain ⟨⟨delivered, hPassed⟩, hQueue⟩ := hHeard
  rw [exact_go h hPassed, hQueue, List.nil_append]

theorem heard_action {action : Action} (hOrdinary : action.ordinary) {w w' : World}
    {outcome : Outcome PgError Unit} (hRun : action.run w = some (outcome, w')) :
    ∃ read, Heard w.net w.conn w'.conn read := by
  simp only [heard_iff_follows]
  apply recorded_queue.action hRun
  · rintro rebuild fresh handshake rfl
    cases hOrdinary
  · rintro timeout rfl
    cases hOrdinary

/-- The one event that does not keep it. -/
theorem exact_step (h : d.Exact) {event : Event} (hStep : d.step net event = some d') :
    d'.Exact ↔ ¬ GivesUp net d event := by
  cases event with
  | arrival entries =>
      simp only [step, arrive] at hStep
      split at hStep
      · cases hStep
        exact iff_of_true h id
      · cases hStep
  | action action =>
      simp only [step] at hStep
      split at hStep
      case isFalse => cases hStep
      case isTrue hOrdinary =>
          cases hRun : action.run ⟨net, d.session⟩ with
          | none => simp [hRun] at hStep
          | some result =>
              rw [hRun] at hStep
              cases hStep
              obtain ⟨read, hHeard⟩ := heard_action hOrdinary hRun
              exact iff_of_true (exact_heard h hHeard) id
  | waitForNotification timeout =>
      rw [exact_take h (accounts_wait net d.conn timeout) hStep]
      simp [GivesUp]
  | waitForNotificationFallback timeout =>
      exact exact_take h (accounts_fallback net d.conn timeout) hStep
  | notifications =>
      rw [exact_take h accounts_notifications hStep]
      simp [GivesUp]

end Steps

def greeting : BackendMessage :=
  .notificationResponse { processId := 7, channel := some "jobs", message := some "one" }

/-- A server that answers with a notification and is gone. -/
def fleetingNetwork : Network where
  frontend := fun _ => .ok []
  frontendTotal := fun _ => []
  typeFromOid := fun _ => none
  answer := fun _ _ => ⟨[.ok greeting], some (.transport .unexpectedEof)⟩
  writeError := fun _ => none
  flushError := fun _ => none

def idle : Delivery := start ⟨.none, .new⟩

/-- A notification comes while the connection is idle, and is waited for. -/
def arrived : Delivery := (idle.step fleetingNetwork (.arrival [.ok greeting])).get (by decide)

def greeted : Delivery :=
  (arrived.step fleetingNetwork (.waitForNotification none)).get (by decide)

/-- The wait by an empty query on that server. -/
def stranded : Delivery :=
  (idle.step fleetingNetwork (.waitForNotificationFallback none)).get (by decide)

end Delivery

end PgClient
