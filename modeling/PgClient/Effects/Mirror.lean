import PgClient.Effects.Parameters
import PgClient.Notification.Delivery

/-!
Runs of everything that is done with a connection, from its startup on and through reconnects,
and what the server has reported of its parameters in them. The map follows every read loop;
the fields of their own stay as the startup has left them.
-/

namespace PgClient

open Async Connection

/-- A startup that has succeeded, with all that was read in it. -/
structure Auth.Established where
  read : List Entry
  params : ServerParams
  started : Auth.Started read params

theorem Auth.established_of_handshake {Scram : Type} {config : Config} {requests : Nat}
    {peer : Peer Scram} {t : Transport} {params : ServerParams}
    (h : handshake config requests peer = .ok (t, params)) :
    ∃ established : Established, established.params = params := by
  obtain ⟨read, hStarted⟩ := started_of_handshake h
  exact ⟨⟨read, params, hStarted⟩, rfl⟩

namespace Connection

section Rebuild

variable {client : ∀ {α : Type}, Client α → Prop} {owner : ∀ {L α : Type}, Owner L α → Prop}

theorem Parts.rebuildSteps (h : Parts client owner) (statements : List (Client Unit))
    (hStatements : ∀ statement ∈ statements, client statement) :
    client (rebuildSteps statements) := by
  induction statements with
  | nil => exact h.pure ()
  | cons statement statements ih =>
      have hStep : client (rebuildStep statement) :=
        h.map _ (h.attempt (hStatements statement List.mem_cons_self))
      exact h.bind hStep fun _ => ih fun s hMem => hStatements s (List.mem_cons_of_mem _ hMem)

theorem Parts.replacement (h : Parts client owner) (rebuild : Bool) (session : SessionState) :
    client (replacement rebuild session) := by
  refine h.bind ?_ fun _ => h.doIf ?_
  · unfold rebuildReconnectInitSql
    cases session.reconnectInitSql with
    | none => exact h.pure ()
    | some sql => exact h.map _ (h.execute sql)
  · refine h.bind (h.rebuildSteps _ fun statement hMem => ?_) fun _ =>
      h.rebuildSteps _ fun statement hMem => ?_
    · obtain ⟨channel, -, rfl⟩ := List.mem_map.mp hMem
      exact h.tracked _ _
    · obtain ⟨entry, -, rfl⟩ := List.mem_map.mp hMem
      exact h.tracked _ _

end Rebuild

end Connection

/-- A connection in a run, with what has come since its startup began: in the startup, in the
startup and the read loops, and in all. -/
structure Mirror where
  net : Network
  session : Session
  startup : List Entry
  recorded : List Entry
  received : List Entry

/-- What is dropped here has a server that still sends. -/
def Handle.isUnfinishedCopy : Handle → Bool
  | .copyIn copy => !copy.done
  | .copyOut copy => !copy.done
  | _ => false

namespace Mirror

/-- What is done in a run. On a plain native socket a COPY that is dropped reads on by itself;
`entries` are the messages that it throws away, and `t` is what it leaves of the transport. -/
inductive Event where
  | event (event : Delivery.Event)
  | reconnect (rebuild : Bool) (fresh : Network)
      (opened : Except PgError (Transport × Auth.Established))
  | discarded (idle : Bool) (t : Transport) (entries : List Entry)

def conn (m : Mirror) : Connection := m.session.conn

def start (net : Network) (t : Transport) (established : Auth.Established) : Mirror where
  net
  session := ⟨.none, { Connection.new with transport := t, serverParams := established.params }⟩
  startup := established.read
  recorded := established.read
  received := established.read

/-- The step to another session, with what the read loops have read in it. -/
def go (m : Mirror) (session : Session) (read : List Entry) : Mirror :=
  { m with session, recorded := m.recorded ++ read, received := m.received ++ read }

def reconnect (rebuild : Bool) (fresh : Network)
    (opened : Except PgError (Transport × Auth.Established)) (m : Mirror) : Option Mirror :=
  match m.session.handle, opened with
  | .none, .ok (t, established) =>
      match Connection.reconnect rebuild fresh (.ok (t, established.params)) m.net m.conn with
      | (.ok (), conn) =>
          some ((start fresh t established).go ⟨.none, conn⟩
            (Transport.readSince fresh t conn.transport))
      | (_, conn) => some { m with session := ⟨.none, conn⟩ }
  | .none, .error e =>
      some { m with
        session := ⟨.none, (Connection.reconnect rebuild fresh (.error e) m.net m.conn).2⟩ }
  | _, _ => none

def discard (idle : Bool) (t : Transport) (entries : List Entry) (m : Mirror) : Option Mirror :=
  if m.session.handle.isUnfinishedCopy then
    some { m with
      session := ⟨.none, { m.conn with
        transport := t
        state := if idle then .idle else .closed }⟩
      received := m.received ++ entries }
  else none

def step (m : Mirror) : Event → Option Mirror
  | .event event =>
      ((Delivery.start m.session).step m.net event).map fun d => m.go d.session d.received
  | .reconnect rebuild fresh opened => m.reconnect rebuild fresh opened
  | .discarded idle t entries => m.discard idle t entries

inductive Reaches (first : Mirror) : Mirror → Prop where
  | start : Reaches first first
  | step {m m' : Mirror} {event : Event} (hReach : Reaches first m)
      (hStep : m.step event = some m') : Reaches first m'

/-- What a parameter was reported to be last; the fields are empty before. -/
def lastValue (entries : List Entry) (field : OwnField) : String :=
  (lastReported field.name entries).getD ""

/-- Each field is what the map says, and what the server has said last. -/
def Mirrors (m : Mirror) : Prop :=
  ∀ field : OwnField,
    field.get m.conn.serverParams = (m.conn.serverParams.params.lookup field.name).getD "" ∧
    field.get m.conn.serverParams = lastValue m.received field

/-- What is kept from step to step. -/
def Kept (m : Mirror) : Prop :=
  shown m.conn =
    { field := lastValue m.startup, value? := fun name => lastReported name m.recorded }

section Steps

variable {m m' : Mirror} {net : Network} {t : Transport} {established : Auth.Established}

theorem kept_start (net : Network) (t : Transport) (established : Auth.Established) :
    (start net t established).Kept := by
  obtain ⟨hFields, hLookup⟩ := established.started.reported
  simp only [Kept, shown, Shown.mk.injEq]
  exact ⟨funext hFields, funext hLookup⟩

theorem kept_go (h : m.Kept) {session : Session} {read : List Entry}
    (hRead : shown session.conn = read.foldl Shown.record (shown m.conn)) :
    (m.go session read).Kept := by
  rw [Kept, go]
  change shown session.conn = _
  rw [hRead, Shown.foldl_record, h]
  simp only [Shown.mk.injEq, true_and]
  funext name
  rw [lastReported_append]

theorem follows_take {d d' : Delivery} {x : Client (List Notification)}
    (hx : Records shown Shown.record x) (hStep : d.take net x = some d') :
    ∃ read, d'.received = d.received ++ read ∧
      shown d'.conn = read.foldl Shown.record (shown d.conn) := by
  obtain ⟨read, ⟨delivered, hPassed⟩, hShown⟩ := hx net d.conn
  simp only [Delivery.take] at hStep
  split at hStep
  · cases hStep
    refine ⟨read, ?_, hShown⟩
    rw [← hPassed.readSince]
    rfl
  · cases hStep

theorem records_waiting {x : Client (Option Notification)} (hx : Records shown Shown.record x) :
    Records shown Shown.record (waiting x) :=
  records_bind hx fun _ => recorded_shown.rules.pure _

/-- Whatever is done with a connection but to replace it. -/
theorem follows_event {d d' : Delivery} {event : Delivery.Event}
    (hStep : d.step net event = some d') :
    ∃ read, d'.received = d.received ++ read ∧
      shown d'.conn = read.foldl Shown.record (shown d.conn) := by
  cases event with
  | arrival entries =>
      simp only [Delivery.step, Delivery.arrive] at hStep
      split at hStep
      · cases hStep
        exact ⟨[], (List.append_nil _).symm, rfl⟩
      · cases hStep
  | action action =>
      simp only [Delivery.step] at hStep
      split at hStep
      case isFalse => cases hStep
      case isTrue hOrdinary =>
          cases hRun : action.run ⟨net, d.session⟩ with
          | none => simp [hRun] at hStep
          | some result =>
              rw [hRun] at hStep
              cases hStep
              obtain ⟨read, ⟨delivered, hPassed⟩, hShown⟩ := recorded_shown.action hRun
                (by rintro rebuild fresh handshake rfl; cases hOrdinary)
                (by rintro timeout rfl; cases hOrdinary)
              refine ⟨read, ?_, hShown⟩
              rw [← hPassed.readSince]
              rfl
  | waitForNotification timeout =>
      exact follows_take (records_waiting (records_waitForNotification timeout)) hStep
  | waitForNotificationFallback timeout =>
      exact follows_take (records_waiting (records_fallback timeout)) hStep
  | notifications => exact follows_take records_notifications hStep

theorem kept_reconnect (h : m.Kept) {rebuild : Bool} {fresh : Network}
    {opened : Except PgError (Transport × Auth.Established)}
    (hStep : m.reconnect rebuild fresh opened = some m') : m'.Kept := by
  have hShutdown : shown (shutdown m.net m.conn).2 = shown m.conn := by
    obtain ⟨old, hState, -⟩ := shutdown_frame m.net m.conn
    rw [hState]
    rfl
  simp only [reconnect] at hStep
  split at hStep
  case h_1 t established _ =>
      rw [reconnect_connected] at hStep
      obtain ⟨read, ⟨delivered, hPassed⟩, hShown⟩ :=
        recorded_shown.rules.parts.replacement rebuild m.conn.sessionState fresh
          { new with transport := t, serverParams := established.params }
      revert hPassed hShown hStep
      match replacement rebuild m.conn.sessionState fresh
        { new with transport := t, serverParams := established.params } with
      | (.err e, newConn) =>
          intro hStep _ _
          cases hStep
          exact hShutdown.trans h
      | (.pending, newConn) =>
          intro hStep _ _
          cases hStep
          exact hShutdown.trans h
      | (.ok (), newConn) =>
          intro hStep hShown hPassed
          cases hStep
          apply kept_go (kept_start fresh t established)
          rw [show Transport.readSince fresh t
            (swapped m.conn newConn).transport = read from hPassed.readSince]
          exact hShown
  case h_2 e _ =>
      rw [reconnect_refused] at hStep
      cases hStep
      exact hShutdown.trans h
  case h_3 => cases hStep

theorem kept_step (h : m.Kept) {event : Event} (hStep : m.step event = some m') : m'.Kept := by
  cases event with
  | event event =>
      simp only [step, Option.map_eq_some_iff] at hStep
      obtain ⟨d, hEvent, rfl⟩ := hStep
      obtain ⟨read, hReceived, hShown⟩ := follows_event hEvent
      apply kept_go h
      rw [hReceived]
      exact hShown
  | reconnect rebuild fresh opened => exact kept_reconnect h hStep
  | discarded idle t entries =>
      simp only [step, discard] at hStep
      split at hStep
      · cases hStep
        exact h
      · cases hStep

theorem kept_of_reaches (hReach : Reaches (start net t established) m) : m.Kept := by
  induction hReach with
  | start => exact kept_start net t established
  | step _ hStep ih => exact kept_step ih hStep

end Steps

/-- In every state of every run the fields mirror the server if and only if the values that it
reported last, and those that a read loop took last, are the ones that the startup took. -/
theorem mirrors_iff {net : Network} {t : Transport} {established : Auth.Established} {m : Mirror}
    (hReach : Reaches (start net t established) m) :
    m.Mirrors ↔ ∀ field, lastValue m.recorded field = lastValue m.startup field ∧
      lastValue m.received field = lastValue m.startup field := by
  have hKept := kept_of_reaches hReach
  have hField : ∀ field : OwnField,
      field.get m.conn.serverParams = lastValue m.startup field :=
    fun field => congrFun (congrArg Shown.field hKept) field
  have hLookup : ∀ name, m.conn.serverParams.params.lookup name = lastReported name m.recorded :=
    fun name => congrFun (congrArg Shown.value? hKept) name
  simp only [Mirrors, hField, hLookup]
  constructor
  · exact fun h field => ⟨(h field).1.symm, (h field).2.symm⟩
  · exact fun h field => ⟨(h field).1.symm, (h field).2.symm⟩

def report (name value : String) : Entry :=
  .ok (.parameterStatus { name := some name, value := some value })

/-- A startup in which the encoding of the client is reported. -/
def established : Auth.Established where
  read := [report "client_encoding" "UTF8", .ok (.readyForQuery 73)]
  params := Auth.setParameter {} "client_encoding" "UTF8"
  started := ⟨fun _ => "", _, rfl⟩

def idle : Mirror := start Delivery.fleetingNetwork .new established

/-- What comes unasked, and a wait that reads it. -/
def told (entry : Entry) : Option Mirror :=
  (idle.step (.event (.arrival [entry]))).bind fun m =>
    m.step (.event (.waitForNotification (some 1)))

theorem reaches_told {entry : Entry} {m : Mirror} (h : told entry = some m) :
    Reaches idle m := by
  obtain ⟨arrived, hArrival, hWait⟩ := Option.bind_eq_some_iff.mp h
  exact .step (.step .start hArrival) hWait

/-- Another parameter, which has no field of its own. -/
def rezoned : Mirror := (told (report "TimeZone" "UTC")).get (by decide)

theorem mirrors_rezoned :
    rezoned.conn.serverParams.params.lookup "TimeZone" = some "UTC" ∧ rezoned.Mirrors := by
  have hReach : Reaches idle rezoned := reaches_told (Option.some_get _).symm
  exact ⟨by decide, (mirrors_iff hReach).mpr fun field => by cases field <;> decide⟩

/-- The encoding of the client is changed, as `SET client_encoding` does. -/
def reencoded : Mirror := (told (report "client_encoding" "LATIN1")).get (by decide)

/-- The map has the new encoding then, and the field the old one. -/
theorem not_mirrors :
    ¬ ∀ net t established m, Reaches (start net t established) m → m.Mirrors := by
  intro hAll
  have hReach : Reaches idle reencoded := reaches_told (Option.some_get _).symm
  have hField := (hAll _ _ _ _ hReach .clientEncoding).1
  exact absurd hField (by decide)

end Mirror

end PgClient
