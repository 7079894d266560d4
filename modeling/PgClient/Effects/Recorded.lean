import PgClient.Connection.Request
import PgClient.Effects.Within
import PgClient.Transport.Passage

/-!
Parts of a connection that record what is read: an asynchronous message changes such a part by
itself, and nothing else does. After whatever is done with a connection such a part is what it
was before, with everything recorded that has been read in between.
-/

namespace PgClient

open Drive Async

namespace Connection

variable {ρ : Type}

/-- What `view` shows of a connection is changed by asynchronous messages only, in the way of
`record`. -/
structure Recorded (view : Connection → ρ) (record : ρ → Entry → ρ) : Prop where
  aside : ∀ {conn conn' : Connection}, conn'.aside = conn.aside → view conn' = view conn
  transport : ∀ (conn : Connection) t, view { conn with transport := t } = view conn
  async : ∀ {conn conn' : Connection} {message}, conn.handleAsyncMessage message = some conn' →
    view conn' = record (view conn) (.ok message)
  other : ∀ shown message, message.isAsync = false → record shown (.ok message) = shown
  error : ∀ shown e, record shown (.error e) = shown

/-- From one connection to the other nothing but `read` has been read, and it is recorded. -/
def Follows (view : Connection → ρ) (record : ρ → Entry → ρ) (net : Network)
    (conn conn' : Connection) (read : List Entry) : Prop :=
  (∃ delivered, Transport.Passed net conn.transport conn'.transport delivered read) ∧
    view conn' = read.foldl record (view conn)

/-- However it ends, what it has read is recorded. -/
def Records (view : Connection → ρ) (record : ρ → Entry → ρ) {α : Type} (x : Client α) : Prop :=
  ∀ net conn, ∃ read, Follows view record net conn (x net conn).2 read

def OwnerRecords (view : Connection → ρ) (record : ρ → Entry → ρ) {L α : Type} (x : Owner L α) :
    Prop :=
  ∀ net s, ∃ read, Follows view record net s.2 (x net s).2.2 read

section Follows

variable {view : Connection → ρ} {record : ρ → Entry → ρ} {net : Network}
  {conn conn' conn'' : Connection} {read later : List Entry}

theorem follows_refl (net : Network) (conn : Connection) : Follows view record net conn conn [] :=
  ⟨⟨[], Transport.passed_refl net _⟩, rfl⟩

theorem Follows.trans (h : Follows view record net conn conn' read)
    (h' : Follows view record net conn' conn'' later) :
    Follows view record net conn conn'' (read ++ later) := by
  obtain ⟨⟨delivered, hPassed⟩, hView⟩ := h
  obtain ⟨⟨delivered', hPassed'⟩, hView'⟩ := h'
  exact ⟨⟨_, hPassed.trans hPassed'⟩, by rw [hView', hView, List.foldl_append]⟩

theorem Recorded.follows_of_aside (h : Recorded view record) (hAside : conn'.aside = conn.aside) :
    Follows view record net conn conn' [] := by
  have hTransport : conn'.transport = conn.transport := congrArg Aside.transport hAside
  refine ⟨⟨[], ?_⟩, h.aside hAside⟩
  rw [hTransport]
  exact Transport.passed_refl net _

theorem Recorded.follows_transport (h : Recorded view record) {t : Transport}
    {delivered : List FrontendMessage}
    (hPassed : Transport.Passed net conn.transport t delivered []) :
    Follows view record net conn { conn with transport := t } [] :=
  ⟨⟨delivered, hPassed⟩, h.transport conn t⟩

theorem Recorded.follows_push (h : Recorded view record) (net : Network) (conn : Connection)
    (frame : Frame) :
    Follows view record net conn { conn with transport := conn.transport.push frame } [] :=
  h.follows_transport (Transport.passed_push net conn.transport frame)

theorem Recorded.follows_flushWrite (h : Recorded view record) {t : Transport}
    (hFlush : conn.transport.flushWrite net = .ok t) :
    Follows view record net conn { conn with transport := t } [] := by
  obtain ⟨delivered, hPassed⟩ := Transport.passed_flushWrite hFlush
  exact h.follows_transport hPassed

end Follows

section Parts

variable {view : Connection → ρ} {record : ρ → Entry → ρ} {L α β : Type}

theorem follows_some_trans {net : Network} {conn conn' conn'' : Connection}
    (h : ∃ read, Follows view record net conn conn' read)
    (h' : ∃ read, Follows view record net conn' conn'' read) :
    ∃ read, Follows view record net conn conn'' read := by
  obtain ⟨read, hRead⟩ := h
  obtain ⟨later, hLater⟩ := h'
  exact ⟨_, hRead.trans hLater⟩

theorem records_bind {x : Client α} {f : α → Client β} (hx : Records view record x)
    (hf : ∀ a, Records view record (f a)) : Records view record (x >>= f) :=
  @related_bind _ Connection _ _ _
    (fun net conn conn' => ∃ read, Follows view record net conn conn' read)
    follows_some_trans _ _ hx hf

theorem ownerRecords_bind {x : Owner L α} {f : α → Owner L β} (hx : OwnerRecords view record x)
    (hf : ∀ a, OwnerRecords view record (f a)) : OwnerRecords view record (x >>= f) :=
  @related_bind _ (L × Connection) _ _ _
    (fun net s s' => ∃ read, Follows view record net s.2 s'.2 read) follows_some_trans _ _ hx hf

theorem Recorded.encodeAndWrite (h : Recorded view record) (message : FrontendMessage) :
    Records view record (encodeAndWrite message) := by
  intro net conn
  refine ⟨[], ?_⟩
  rw [encodeAndWrite_apply]
  cases net.encode message with
  | error e => exact follows_refl net conn
  | ok bytes =>
      have hPush : Follows view record net conn _ [] := h.follows_push net conn { message, bytes }
      simp only [writeAll]
      split
      · cases hFlush : (conn.transport.push { message, bytes }).flushWrite net with
        | error e => exact hPush
        | ok t =>
            have hSent : Follows view record net
                { conn with transport := conn.transport.push { message, bytes } }
                { conn with transport := t } [] := h.follows_flushWrite hFlush
            exact hPush.trans hSent
      · exact hPush

theorem Recorded.flush (h : Recorded view record) : Records view record flush := by
  intro net conn
  refine ⟨[], ?_⟩
  simp only [Connection.flush]
  cases hFlush : conn.transport.flushWrite net with
  | error e => exact follows_refl net conn
  | ok t =>
      dsimp only
      cases net.flushError t.history <;> exact h.follows_flushWrite hFlush

theorem Recorded.shutdown (h : Recorded view record) : Records view record shutdown := by
  intro net conn
  refine ⟨[], ?_⟩
  simp only [Connection.shutdown]
  cases hFlush : conn.transport.flushWrite net with
  | error e => exact follows_refl net conn
  | ok t => exact h.follows_flushWrite hFlush

/-- What a loop has done with the part `taken` of the entries. -/
structure Absorbed (view : Connection → ρ) (record : ρ → Entry → ρ) (conn conn' : Connection)
    (taken : List Entry) : Prop where
  transport : conn'.transport = conn.transport
  view : view conn' = taken.foldl record (view conn)

theorem Absorbed.trans {conn conn' conn'' : Connection} {taken later : List Entry}
    (h : Absorbed view record conn conn' taken) (h' : Absorbed view record conn' conn'' later) :
    Absorbed view record conn conn'' (taken ++ later) :=
  ⟨by rw [h'.transport, h.transport], by rw [h'.view, h.view, List.foldl_append]⟩

theorem Recorded.follows_of_absorbed (h : Recorded view record) {conn conn' : Connection}
    {taken rest : List Entry} (hAbsorbed : Absorbed view record conn conn' taken) (net : Network)
    (hInbox : conn.transport.inbox = taken ++ rest) :
    Follows view record net conn (conn'.setInbox rest) taken := by
  refine ⟨⟨[], ?_⟩, (h.transport conn' _).trans hAbsorbed.view⟩
  rw [setInbox, hAbsorbed.transport]
  exact Transport.passed_take net hInbox

/-- Every message that a loop takes it records. -/
def AbsorbsEach (view : Connection → ρ) (record : ρ → Entry → ρ)
    (body : L × Connection → BackendMessage → Step (L × Connection) (Except PgError β)) : Prop :=
  ∀ s entry, match readStep body s entry with
    | .next s' => Absorbed view record s.2 s'.2 [entry]
    | .exit _ s' => Absorbed view record s.2 s'.2 [entry]

theorem Recorded.absorbsEach_of_plain (h : Recorded view record)
    {body : L × Connection → BackendMessage → Step (L × Connection) (Except PgError β)}
    (hBody : Plain body) : AbsorbsEach view record body := by
  obtain ⟨other, rfl, hOther⟩ := hBody
  rintro ⟨l, conn⟩ entry
  cases entry with
  | error e => exact ⟨rfl, (h.error _ e).symm⟩
  | ok message =>
      simp only [readStep, asyncFirst]
      cases hAsync : conn.handleAsyncMessage message with
      | some conn' =>
          exact ⟨congrArg Core.transport (core_of_handleAsyncMessage hAsync), h.async hAsync⟩
      | none =>
          have hMessage : message.isAsync = false := by
            rw [← handleAsyncMessage_isSome conn, hAsync]
            rfl
          have hAside := hOther l conn conn.aside message
          rw [overlay_aside] at hAside
          dsimp only
          have hKept : ∀ conn' : Connection, conn' = conn'.overlay conn.aside →
              Absorbed view record conn conn' [.ok message] := by
            intro conn' hState
            rw [hState]
            exact ⟨rfl, (h.aside (aside_overlay conn' conn.aside)).trans
              (h.other _ message hMessage).symm⟩
          cases hStep : other (l, conn) message with
          | next s' =>
              rw [hStep] at hAside
              exact hKept s'.2 (congrArg Prod.snd (Step.next.inj hAside))
          | exit result s' =>
              rw [hStep] at hAside
              exact hKept s'.2 (congrArg Prod.snd (Step.exit.inj hAside).2)

theorem absorbed_drive
    {body : L × Connection → BackendMessage → Step (L × Connection) (Except PgError β)}
    (hBody : AbsorbsEach view record body) (s : L × Connection) (entries : List Entry) :
    match drive (readStep body) s entries with
    | .waiting s' => Absorbed view record s.2 s'.2 entries
    | .done _ s' rest =>
        ∃ taken, entries = taken ++ rest ∧ Absorbed view record s.2 s'.2 taken := by
  induction entries generalizing s with
  | nil => exact ⟨rfl, rfl⟩
  | cons entry entries ih =>
      have hStep := hBody s entry
      cases hRead : readStep body s entry with
      | next s' =>
          rw [hRead] at hStep
          rw [drive_cons_next _ entries hRead]
          have hDrive := ih s'
          revert hDrive
          cases drive (readStep body) s' entries with
          | waiting s'' => exact fun hLater => hStep.trans hLater
          | done result s'' rest =>
              rintro ⟨taken, rfl, hLater⟩
              exact ⟨entry :: taken, rfl, hStep.trans hLater⟩
      | exit result s' =>
          rw [hRead] at hStep
          rw [drive_cons_exit _ entries hRead]
          exact ⟨[entry], rfl, hStep⟩

theorem Recorded.ownerRecords_loop (h : Recorded view record)
    {body : L × Connection → BackendMessage → Step (L × Connection) (Except PgError β)}
    (hBody : AbsorbsEach view record body) : OwnerRecords view record (messageLoop body) := by
  intro net s
  have hDrive := absorbed_drive hBody s s.2.transport.inbox
  simp only [messageLoop]
  revert hDrive
  cases drive (readStep body) s s.2.transport.inbox with
  | waiting s' =>
      intro hAbsorbed
      have hFollows : Follows view record net s.2 (s'.2.setInbox []) s.2.transport.inbox :=
        h.follows_of_absorbed hAbsorbed net (by simp)
      cases s.2.transport.ending <;> exact ⟨_, hFollows⟩
  | done result s' rest =>
      rintro ⟨taken, hInbox, hAbsorbed⟩
      exact ⟨taken, h.follows_of_absorbed hAbsorbed net hInbox⟩

theorem aside_of_overlay {f : Connection → Connection}
    (hf : ∀ conn a, f (conn.overlay a) = (f conn).overlay a) (conn : Connection) :
    (f conn).aside = conn.aside := by
  have h := hf conn conn.aside
  rw [overlay_aside] at h
  rw [h, aside_overlay]

/-- Every operation records what it reads. -/
theorem Recorded.rules (h : Recorded view record) :
    Rules (Records view record) (OwnerRecords view record) where
  pure _ := fun net conn => ⟨[], follows_refl net conn⟩
  fail _ := fun net conn => ⟨[], follows_refl net conn⟩
  bind := records_bind
  attempt := by
    intro α x hx net conn
    rw [snd_attempt]
    exact hx net conn
  get _ hk := fun net conn => hk conn net conn
  types hk := fun net conn => hk net.typeFromOid net conn
  modify hf := fun _ conn => ⟨[], h.follows_of_aside (aside_of_overlay hf conn)⟩
  write := h.encodeAndWrite
  flush := h.flush
  shutdown := h.shutdown
  owned := by
    intro L α l drop x hDrop hx net conn
    obtain ⟨read, hRead⟩ := hx net (l, conn)
    refine ⟨read, ?_⟩
    have hAside := aside_of_overlay (hDrop (x net (l, conn)).2.1) (x net (l, conn)).2.2
    simpa using hRead.trans (h.follows_of_aside hAside)
  ownerPure _ := fun net s => ⟨[], follows_refl net s.2⟩
  ownerFail _ := fun net s => ⟨[], follows_refl net s.2⟩
  ownerWait := fun net s => ⟨[], follows_refl net s.2⟩
  ownerBind := ownerRecords_bind
  ownerAttempt := by
    intro L α x hx net s
    rw [snd_attempt]
    exact hx net s
  ownerGet _ hk := fun net s => hk s net s
  ownerModify hf := by
    rintro net ⟨l, conn⟩
    refine ⟨[], h.follows_of_aside ?_⟩
    have hOverlay := hf l conn conn.aside
    rw [overlay_aside] at hOverlay
    exact congrArg (fun s => s.2.aside) hOverlay
  onSnd hx := fun net s => hx net s.2
  withExtra := by
    rintro L M α m x hx net ⟨l, conn⟩
    exact hx net ((l, m), conn)
  loop hBody := h.ownerRecords_loop (h.absorbsEach_of_plain hBody)
  fueled hx _ := fun net s => hx _ net s

end Parts

section Calls

variable {view : Connection → ρ} {record : ρ → Entry → ρ} {net : Network}

theorem Recorded.drop (h : Recorded view record) (net : Network) (handle : Handle)
    (conn : Connection) :
    Follows view record net conn (handle.drop net conn) [] := by
  apply h.follows_of_aside
  cases handle with
  | none | cursor cursor => rfl
  | rowStream stream =>
      rw [Handle.drop, RowStream.drop_eq]
      rfl
  | cursorStream stream =>
      rw [Handle.drop, CursorStream.drop_eq]
      rfl
  | copyIn copy =>
      rw [Handle.drop, CopyIn.drop_eq]
      split <;> rfl
  | copyOut copy =>
      rw [Handle.drop, CopyOut.drop_eq]
      split <;> rfl

theorem Recorded.within (h : Recorded view record) :
    Within fun net conn conn' => ∃ read, Follows view record net conn conn' read where
  trans := by
    rintro net conn conn' conn'' ⟨read, hRead⟩ ⟨later, hLater⟩
    exact ⟨_, hRead.trans hLater⟩
  parts := h.rules.parts
  drop net handle conn := ⟨[], h.drop net handle conn⟩

/-- Whatever is done with a connection but to replace it. -/
theorem Recorded.action (h : Recorded view record) {action : Action} {w w' : World}
    {outcome : Outcome PgError Unit} (hRun : action.run w = some (outcome, w'))
    (hReconnect : ∀ rebuild fresh handshake, action ≠ .reconnect rebuild fresh handshake)
    (hWait : ∀ timeout, action = .waitForNotification timeout →
      Records view record (waitForNotification timeout)) :
    ∃ read, Follows view record w.net w.conn w'.conn read :=
  h.within.action (fun _ _ _ => h.rules.count) hRun hReconnect hWait

end Calls

end Connection
end PgClient
