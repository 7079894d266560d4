import PgClient.Connection.Io

/-!
Waiting for a notification on an idle connection.
-/

namespace PgClient
namespace Connection

open Drive

def unexpectedWhileWaiting : String :=
  "received unexpected backend message while waiting for notification"

/-- Here a `ReadyForQuery` does not end the loop. -/
def notificationBody :
    Unit × Connection → BackendMessage → Step (Unit × Connection) (Except PgError Notification) :=
  fun (value, conn) message =>
    match message with
    | .notificationResponse body =>
        .exit (.ok { processId := body.processId, channel := body.channel.getD "",
                     payload := body.message.getD "" }) (value, conn)
    | .noticeResponse body =>
        match PgServerError.fromBody body with
        | .ok notice => .next (value, conn.handleNotice notice)
        | .error _ => .next (value, conn)
    | .parameterStatus body =>
        match body.name, body.value with
        | some name, some value' =>
            .next (value, { conn with
              serverParams.params := mapInsert name value' conn.serverParams.params })
        | _, _ => .next (value, conn)
    | .readyForQuery status => .next (value, (conn.setReady status).setState .idle)
    | .emptyQueryResponse => .next (value, conn)
    | _ => .exit (.error (.invalidState unexpectedWhileWaiting)) (value, conn)

theorem notificationBody_noticeResponse (s : Unit × Connection) (body : ErrorBody) :
    notificationBody s (.noticeResponse body) =
      match PgServerError.fromBody body with
      | .ok notice => .next (s.1, s.2.handleNotice notice)
      | .error _ => .next s := rfl

theorem notificationBody_parameterStatus (s : Unit × Connection) (body : ParameterStatusBody) :
    notificationBody s (.parameterStatus body) =
      match body.name, body.value with
      | some name, some value =>
          .next (s.1, { s.2 with
            serverParams.params := mapInsert name value s.2.serverParams.params })
      | _, _ => .next s := rfl

def readNextNotificationBlocking : Client Notification := do
  let conn ← .get
  .failIf (!conn.isIdle)
    (.invalidState "connection must be idle while waiting for notifications")
  .withLocal () (messageLoop notificationBody)

/-- A deadline, which passes when nothing more comes. -/
def beforeDeadline {α : Type} (x : Client α) : Client (Option α) := fun net conn =>
  match x net conn with
  | (.ok a, conn) => (.ok (some a), conn)
  | (.err e, conn) => (.err e, conn)
  | (.pending, conn) => (.ok none, conn)

/-- The connection is where the wait has left it. -/
theorem snd_beforeDeadline {α : Type} (x : Client α) (net : Network) (conn : Connection) :
    (beforeDeadline x net conn).2 = (x net conn).2 := by
  rw [beforeDeadline]
  rcases x net conn with ⟨_ | _ | _, _⟩ <;> rfl

def waitForNotification (timeout : Option Nat) : Client (Option Notification) := do
  let conn ← .get
  match conn.notificationQueue with
  | notification :: queue =>
      .modify fun conn => { conn with notificationQueue := queue }
      return some notification
  | [] =>
      match timeout with
      | some 0 => return none
      | some _ => beforeDeadline readNextNotificationBlocking
      | none => do
          let notification ← readNextNotificationBlocking
          return some notification

end Connection
end PgClient
