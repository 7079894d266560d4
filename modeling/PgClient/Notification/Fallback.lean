import PgClient.Notification

/-!
The other ways to take notifications off a connection: waiting where there is no timer, by
an empty query, and taking what is queued.
-/

namespace PgClient
namespace Connection

open Drive

/-- The notification that the loop leaves with is not put in the queue. -/
def emptyCycleBody : Unit × Connection → BackendMessage →
    Step (Unit × Connection) (Except PgError (Option Notification)) :=
  fun (value, conn) message =>
    match message with
    | .notificationResponse body =>
        .exit (.ok (some { processId := body.processId, channel := body.channel.getD "",
                           payload := body.message.getD "" })) (value, conn)
    | .emptyQueryResponse => .next (value, conn)
    | .readyForQuery status => .exit (.ok none) (value, (conn.setReady status).setState .idle)
    | .noticeResponse body =>
        match PgServerError.fromBody body with
        | .ok notice => .next (value, conn.handleNotice notice)
        | .error _ => .next (value, conn)
    | .parameterStatus body =>
        match body.name, body.value with
        | some name, some value' =>
            .next (value, { conn with
              serverParams.params := mapInsert name value' conn.serverParams.params })
        | _, _ => .next (value, conn)
    | _ => .next (value, conn)

/-- The round trip of an empty query, with the notification that it has brought first. -/
def emptyCycle : Client (Option Notification) := do
  match ← Async.withLocal () (messageLoop emptyCycleBody) with
  | some notification =>
      readUntilReady
      return some notification
  | none => do
      let conn ← .get
      match conn.notificationQueue with
      | notification :: queue =>
          .modify fun conn => { conn with notificationQueue := queue }
          return some notification
      | [] => return none

/-- `wait_for_notification` on targets without a timer. -/
def waitForNotificationFallback (timeout : Option Nat) : Client (Option Notification) := do
  let conn ← .get
  match conn.notificationQueue with
  | notification :: queue =>
      .modify fun conn => { conn with notificationQueue := queue }
      return some notification
  | [] =>
      if timeout = some 0 then return none
      else
        transition .activeSimpleQuery
        send (.query "")
        emptyCycle

/-- `notifications`, which `drain_notifications` does as well. -/
def notifications : Client (List Notification) := do
  let conn ← .get
  .modify fun conn => { conn with notificationQueue := [] }
  return conn.notificationQueue

end Connection
end PgClient
