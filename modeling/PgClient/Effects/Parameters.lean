import PgClient.Effects.Recorded
import PgClient.Notification.Fallback
import PgClient.Transparency.Startup

/-!
The parameters that the server reports. Every read loop enters them in a map; three of them are
kept in fields of their own besides, which are set while the connection is started only.
-/

namespace PgClient

open Drive Async

/-- The parameters that have fields of their own. -/
inductive OwnField where
  | serverVersion
  | serverEncoding
  | clientEncoding
deriving DecidableEq, Repr

namespace OwnField

def name : OwnField → String
  | serverVersion => "server_version"
  | serverEncoding => "server_encoding"
  | clientEncoding => "client_encoding"

def get (params : ServerParams) : OwnField → String
  | serverVersion => params.serverVersion
  | serverEncoding => params.serverEncoding
  | clientEncoding => params.clientEncoding

end OwnField

/-- The parameter that a message reports; a report that cannot be read counts for nothing. -/
def Entry.parameter? : Entry → Option (String × String)
  | .ok (.parameterStatus body) =>
      match body.name, body.value with
      | some name, some value => some (name, value)
      | _, _ => none
  | _ => none

/-- The value with which a parameter was reported last. -/
def lastReported (name : String) (entries : List Entry) : Option String :=
  (entries.filterMap Entry.parameter?).reverse.lookup name

section LastReported

variable {name : String} {entry : Entry}

@[simp] theorem lastReported_nil (name : String) : lastReported name [] = none := rfl

theorem lastReported_append (name : String) (entries later : List Entry) :
    lastReported name (entries ++ later) =
      (lastReported name later).or (lastReported name entries) := by
  simp only [lastReported, List.filterMap_append, List.reverse_append, List.lookup_append]

theorem lastReported_cons (name : String) (entry : Entry) (entries : List Entry) :
    lastReported name (entry :: entries) =
      (lastReported name entries).or (lastReported name [entry]) :=
  lastReported_append name [entry] entries

theorem lastReported_of_none (h : entry.parameter? = none) (name : String) :
    lastReported name [entry] = none := by
  simp [lastReported, h]

theorem lastReported_of_some {reported value : String}
    (h : entry.parameter? = some (reported, value)) (name : String) :
    lastReported name [entry] = if name = reported then some value else none := by
  simp [lastReported, h, List.lookup_singleton]

theorem lookup_filter_ne {key : String} (map : List (String × String)) {name : String}
    (h : name ≠ key) : (map.filter fun entry => entry.1 ≠ key).lookup name = map.lookup name := by
  induction map with
  | nil => rfl
  | cons entry map ih =>
      obtain ⟨other, value⟩ := entry
      by_cases hKey : other = key
      · subst hKey
        rw [List.filter_cons_of_neg (by simp), ih, List.lookup_cons, beq_false_of_ne h]
      · rw [List.filter_cons_of_pos (by simpa using hKey), List.lookup_cons, List.lookup_cons, ih]

theorem lookup_mapInsert (key value : String) (map : List (String × String)) (name : String) :
    (mapInsert key value map).lookup name =
      if name = key then some value else map.lookup name := by
  rw [mapInsert, List.lookup_cons]
  by_cases h : name = key
  · subst h
    simp
  · rw [beq_false_of_ne h, if_neg h]
    exact lookup_filter_ne map h

end LastReported

namespace Auth

theorem get_setParameter (params : ServerParams) (name value : String) (field : OwnField) :
    field.get (setParameter params name value) =
      if field.name = name then value else field.get params := by
  simp only [setParameter]
  split
  · cases field <;> rfl
  · cases field <;> rfl
  · cases field <;> rfl
  · next hVersion hServer hClient =>
      rw [if_neg]
      · cases field <;> rfl
      · rintro rfl
        cases field with
        | serverVersion => exact hVersion rfl
        | serverEncoding => exact hServer rfl
        | clientEncoding => exact hClient rfl

theorem params_setParameter (params : ServerParams) (name value : String) :
    (setParameter params name value).params = mapInsert name value params.params := by
  simp only [setParameter]
  split <;> rfl

/-- One message of a startup that goes on. -/
theorem startupStep_next {utf8Text : ParameterStatusBody → String} {params params' : ServerParams}
    {entry : Entry} (h : startupStep utf8Text params entry = .next params') :
    (∀ field : OwnField, field.get params' =
      (lastReported field.name [entry]).getD (field.get params)) ∧
    ∀ name, params'.params.lookup name =
      (lastReported name [entry]).or (params.params.lookup name) := by
  have hNone : entry.parameter? = none → params'.params = params.params →
      (∀ field : OwnField, field.get params' = field.get params) →
      (∀ field : OwnField, field.get params' =
        (lastReported field.name [entry]).getD (field.get params)) ∧
      ∀ name, params'.params.lookup name =
        (lastReported name [entry]).or (params.params.lookup name) := by
    intro hEntry hParams hFields
    refine ⟨fun field => ?_, fun name => ?_⟩
    · rw [lastReported_of_none hEntry, hFields]
      rfl
    · rw [lastReported_of_none hEntry, hParams]
      rfl
  cases entry with
  | error e => cases h
  | ok message =>
      cases message with
      | parameterStatus body =>
          obtain ⟨reported, value⟩ := body
          match reported, value with
          | some reported, some value =>
              cases h
              have hEntry : Entry.parameter?
                  (.ok (.parameterStatus ⟨some reported, some value⟩)) =
                    some (reported, value) := rfl
              refine ⟨fun field => ?_, fun name => ?_⟩
              · rw [get_setParameter, lastReported_of_some hEntry]
                split <;> rfl
              · rw [params_setParameter, lookup_mapInsert, lastReported_of_some hEntry]
                split <;> rfl
          | some reported, none => cases h
          | none, _ => cases h
      | backendKeyData processId secretKey =>
          cases h
          exact hNone rfl rfl fun field => by cases field <;> rfl
      | readyForQuery status => cases h
      | errorResponse body => cases h
      | _ =>
          cases h
          exact hNone rfl rfl fun _ => rfl

/-- A startup that succeeds does with the `ReadyForQuery`, which reports nothing. -/
theorem startupStep_exit {utf8Text : ParameterStatusBody → String}
    {first params left : ServerParams} {entry : Entry}
    (h : startupStep utf8Text first entry = .exit (.ok params) left) :
    params = first ∧ entry.parameter? = none := by
  cases entry with
  | error e => cases h
  | ok message =>
      cases message with
      | readyForQuery status =>
          cases h
          exact ⟨rfl, rfl⟩
      | errorResponse body =>
          simp only [startupStep, Step.exit.injEq] at h
          cases hFields : formatErrorFields body <;> simp [hFields, Except.bind] at h
      | parameterStatus body =>
          obtain ⟨reported, value⟩ := body
          cases reported with
          | some reported => cases value <;> cases h
          | none => cases h
      | _ => cases h

/-- A startup reads `entries` to their end and returns `params`. -/
def Started (entries : List Entry) (params : ServerParams) : Prop :=
  ∃ utf8Text left, drive (startupStep utf8Text) {} entries = .done (.ok params) left []

theorem reported_of_drive {utf8Text : ParameterStatusBody → String} (entries : List Entry)
    {first params left : ServerParams}
    (h : drive (startupStep utf8Text) first entries = .done (.ok params) left []) :
    (∀ field : OwnField, field.get params =
      (lastReported field.name entries).getD (field.get first)) ∧
    ∀ name, params.params.lookup name =
      (lastReported name entries).or (first.params.lookup name) := by
  induction entries generalizing first with
  | nil => cases h
  | cons entry entries ih =>
      cases hStep : startupStep utf8Text first entry with
      | next params' =>
          rw [drive_cons_next _ _ hStep] at h
          obtain ⟨hFields, hLookup⟩ := ih h
          obtain ⟨hField, hEntry⟩ := startupStep_next hStep
          refine ⟨fun field => ?_, fun name => ?_⟩
          · rw [hFields, hField, lastReported_cons field.name entry entries]
            cases lastReported field.name entries <;> rfl
          · rw [hLookup, hEntry, lastReported_cons name entry entries, Option.or_assoc]
      | exit result params' =>
          rw [drive_cons_exit _ _ hStep] at h
          cases h
          obtain ⟨rfl, hNone⟩ := startupStep_exit hStep
          refine ⟨fun field => ?_, fun name => ?_⟩
          · rw [lastReported_of_none hNone]
            rfl
          · rw [lastReported_of_none hNone]
            rfl

/-- After a startup the map and the fields of their own say what was reported. -/
theorem Started.reported {entries : List Entry} {params : ServerParams}
    (h : Started entries params) :
    (∀ field : OwnField, field.get params = (lastReported field.name entries).getD "") ∧
    ∀ name, params.params.lookup name = lastReported name entries := by
  obtain ⟨utf8Text, left, hDrive⟩ := h
  obtain ⟨hFields, hLookup⟩ := reported_of_drive entries hDrive
  refine ⟨fun field => ?_, fun name => ?_⟩
  · rw [hFields]
    cases field <;> rfl
  · rw [hLookup]
    exact Option.or_none

theorem started_of_handshake {Scram : Type} {config : Config} {requests : Nat} {peer : Peer Scram}
    {t : Transport} {params : ServerParams}
    (h : handshake config requests peer = .ok (t, params)) : ∃ entries, Started entries params := by
  simp only [handshake, startup, authenticate, bind_apply] at h
  revert h
  rcases (send (.startup config.startupParams) : Startup Scram Unit) peer .new with
    ⟨_ | _ | _, t₁⟩
  case err | pending =>
      intro h
      cases h
  case ok =>
      simp only [andThen_ok, bind_apply]
      rcases (authenticateLoop config requests : Startup Scram Unit) peer t₁ with
        ⟨_ | _ | _, t₂⟩
      case err | pending =>
          intro h
          cases h
      case ok =>
          simp only [andThen_ok, readStartupParams]
          intro h
          cases hDrive : drive (startupStep peer.utf8Text) {} t₂.inbox with
          | waiting left => cases hEnding : t₂.ending <;> simp [hDrive, hEnding] at h
          | done result left rest =>
              obtain ⟨taken, entry, before, -, hTaken, hExit⟩ := drive_done_split _ hDrive
              rw [hDrive] at h
              cases result with
              | error e => cases h
              | ok params' =>
                  cases h
                  refine ⟨taken ++ [entry], peer.utf8Text, left, ?_⟩
                  rw [drive_append_waiting _ hTaken, drive_cons_exit _ [] hExit]

end Auth

namespace Connection

/-- The fields of their own and the map, as they can be looked up. -/
structure Shown where
  field : OwnField → String
  value? : String → Option String

def shown (conn : Connection) : Shown where
  field field := field.get conn.serverParams
  value? name := conn.serverParams.params.lookup name

/-- Only the map is kept up to date. -/
def Shown.record (s : Shown) (entry : Entry) : Shown :=
  { s with value? := fun name => (lastReported name [entry]).or (s.value? name) }

namespace Shown

theorem foldl_record (read : List Entry) (s : Shown) :
    read.foldl record s =
      { s with value? := fun name => (lastReported name read).or (s.value? name) } := by
  induction read generalizing s with
  | nil => rfl
  | cons entry read ih =>
      rw [List.foldl_cons, ih]
      simp only [record, mk.injEq, true_and]
      funext name
      rw [lastReported_cons name entry read, Option.or_assoc]

theorem record_of_none {entry : Entry} (h : entry.parameter? = none) (s : Shown) :
    s.record entry = s := by
  simp only [record, lastReported_of_none h, Option.none_or]

theorem shown_mapInsert (conn : Connection) {name value : String} {entry : Entry}
    (h : entry.parameter? = some (name, value)) :
    shown { conn with
      serverParams.params := mapInsert name value conn.serverParams.params } =
      (shown conn).record entry := by
  simp only [record, shown, mk.injEq]
  constructor
  · funext field
    cases field <;> rfl
  · funext other
    rw [lookup_mapInsert, lastReported_of_some h]
    split <;> rfl

end Shown

theorem parameter?_of_not_async {message : BackendMessage} (h : message.isAsync = false) :
    Entry.parameter? (.ok message) = none := by
  cases message with
  | parameterStatus body => cases h
  | _ => rfl

theorem recorded_shown : Recorded shown Shown.record where
  aside := by
    intro conn conn' h
    have hParams : conn'.serverParams.params = conn.serverParams.params := congrArg Aside.params h
    simp only [shown, Shown.mk.injEq, hParams, and_true]
    funext field
    cases field with
    | serverVersion => exact congrArg Aside.serverVersion h
    | serverEncoding => exact congrArg Aside.serverEncoding h
    | clientEncoding => exact congrArg Aside.clientEncoding h
  transport _ _ := rfl
  async := by
    intro conn conn' message h
    cases message with
    | parameterStatus body =>
        obtain ⟨name, value⟩ := body
        match name, value with
        | some name, some value =>
            cases h
            exact Shown.shown_mapInsert conn rfl
        | some name, none =>
            cases h
            exact (Shown.record_of_none rfl _).symm
        | none, _ =>
            cases h
            exact (Shown.record_of_none rfl _).symm
    | noticeResponse body =>
        rw [Shown.record_of_none rfl]
        simp only [handleAsyncMessage] at h
        split at h <;> cases h <;> rfl
    | notificationResponse body =>
        cases h
        exact (Shown.record_of_none rfl _).symm
    | _ => cases h
  other s message h := Shown.record_of_none (parameter?_of_not_async h) s
  error s e := Shown.record_of_none rfl s

section Waits

variable {α : Type}

theorem absorbs_none {conn conn' : Connection} {entry : Entry} (hEntry : entry.parameter? = none)
    (hTransport : conn'.transport = conn.transport) (hShown : shown conn' = shown conn) :
    Absorbed shown Shown.record conn conn' [entry] :=
  ⟨hTransport, hShown.trans (Shown.record_of_none hEntry _).symm⟩

theorem absorbsEach_notification : AbsorbsEach shown Shown.record notificationBody := by
  rintro ⟨value, conn⟩ entry
  cases entry with
  | error e => exact absorbs_none rfl rfl rfl
  | ok message =>
      cases message with
      | parameterStatus body =>
          obtain ⟨name, value'⟩ := body
          match name, value' with
          | some name, some value' => exact ⟨rfl, Shown.shown_mapInsert conn rfl⟩
          | some name, none => exact absorbs_none rfl rfl rfl
          | none, _ => exact absorbs_none rfl rfl rfl
      | noticeResponse body =>
          simp only [readStep, notificationBody_noticeResponse]
          cases PgServerError.fromBody body <;> exact absorbs_none rfl rfl rfl
      | _ => exact absorbs_none rfl rfl rfl

theorem absorbsEach_emptyCycle : AbsorbsEach shown Shown.record emptyCycleBody := by
  rintro ⟨value, conn⟩ entry
  cases entry with
  | error e => exact absorbs_none rfl rfl rfl
  | ok message =>
      cases message with
      | parameterStatus body =>
          obtain ⟨name, value'⟩ := body
          match name, value' with
          | some name, some value' => exact ⟨rfl, Shown.shown_mapInsert conn rfl⟩
          | some name, none => exact absorbs_none rfl rfl rfl
          | none, _ => exact absorbs_none rfl rfl rfl
      | noticeResponse body =>
          simp only [readStep, emptyCycleBody]
          cases PgServerError.fromBody body <;> exact absorbs_none rfl rfl rfl
      | _ => exact absorbs_none rfl rfl rfl

theorem records_get {view : Connection → α} {record : α → Entry → α} {β : Type}
    {k : Connection → Client β} (h : ∀ conn, Records view record (k conn)) :
    Records view record (Async.get >>= k) :=
  fun net conn => h conn net conn

/-- What is done with the queue is no concern of the parameters. -/
theorem records_setQueue (queue : Connection → List Notification) :
    Records shown Shown.record
      (.modify fun conn => { conn with notificationQueue := queue conn }) :=
  fun net _ => ⟨[], ⟨[], Transport.passed_refl net _⟩, rfl⟩

theorem records_blocking : Records shown Shown.record readNextNotificationBlocking := by
  apply records_get
  intro conn
  refine records_bind ?_ fun _ =>
    recorded_shown.rules.parts.withLocal (recorded_shown.ownerRecords_loop absorbsEach_notification)
  by_cases hIdle : (!conn.isIdle) = true
  · rw [failIf_pos hIdle]
    exact recorded_shown.rules.fail _
  · rw [failIf_neg hIdle]
    exact recorded_shown.rules.pure ()

theorem records_beforeDeadline {x : Client α} (hx : Records shown Shown.record x) :
    Records shown Shown.record (beforeDeadline x) := by
  intro net conn
  rw [snd_beforeDeadline]
  exact hx net conn

theorem records_waitForNotification (timeout : Option Nat) :
    Records shown Shown.record (waitForNotification timeout) := by
  apply records_get
  intro conn
  cases conn.notificationQueue with
  | cons notification queue =>
      exact records_bind (records_setQueue _) fun _ => recorded_shown.rules.pure _
  | nil =>
      match timeout with
      | some 0 => exact recorded_shown.rules.pure _
      | some (_ + 1) => exact records_beforeDeadline records_blocking
      | none => exact records_bind records_blocking fun _ => recorded_shown.rules.pure _

theorem records_emptyCycle : Records shown Shown.record emptyCycle := by
  refine records_bind (recorded_shown.rules.parts.withLocal
    (recorded_shown.ownerRecords_loop absorbsEach_emptyCycle)) fun result => ?_
  cases result with
  | some notification =>
      exact records_bind recorded_shown.rules.parts.readUntilReady
        fun _ => recorded_shown.rules.pure _
  | none =>
      apply records_get
      intro conn
      cases conn.notificationQueue with
      | cons notification queue =>
          exact records_bind (records_setQueue _) fun _ => recorded_shown.rules.pure _
      | nil => exact recorded_shown.rules.pure _

theorem records_fallback (timeout : Option Nat) :
    Records shown Shown.record (waitForNotificationFallback timeout) := by
  apply records_get
  intro conn
  cases conn.notificationQueue with
  | cons notification queue =>
      exact records_bind (records_setQueue _) fun _ => recorded_shown.rules.pure _
  | nil =>
      by_cases hTimeout : timeout = some 0
      · subst hTimeout
        exact recorded_shown.rules.pure _
      · simp only [if_neg hTimeout]
        refine records_bind (recorded_shown.rules.parts.transition _) fun _ => ?_
        exact records_bind (recorded_shown.rules.parts.send _) fun _ => records_emptyCycle

theorem records_notifications : Records shown Shown.record notifications := by
  apply records_get
  intro conn
  exact records_bind (records_setQueue _) fun _ => recorded_shown.rules.pure _

end Waits

end Connection

end PgClient
