import PgClient.Effects.Calls
import PgClient.Reconnect.Flag

/-!
Relations between the connection before something is done and the connection after it. What
the parts of the operations and the drops stay within, whatever is done with a connection
stays within, but for the drawing of a name and for a reconnect.
-/

namespace PgClient

open Async

/-- The calls that draw a name. -/
def Call.isNaming : Call → Bool
  | .operation op => op.namesStatement
  | .opening request => request.namesPortal
  | .handle _ => false

namespace Connection

/-- However a client ends, the connection is then so related to what it was. -/
def Leads (R : Network → Connection → Connection → Prop) {α : Type} (x : Client α) : Prop :=
  ∀ net conn, R net conn (x net conn).2

def OwnerLeads (R : Network → Connection → Connection → Prop) {L α : Type} (x : Owner L α) : Prop :=
  ∀ net s, R net s.2 (x net s).2.2

structure Within (R : Network → Connection → Connection → Prop) : Prop where
  trans : ∀ {net conn conn' conn''}, R net conn conn' → R net conn' conn'' → R net conn conn''
  parts : Parts (Leads R) (OwnerLeads R)
  drop : ∀ net handle conn, R net conn (Handle.drop net handle conn)

variable {R : Network → Connection → Connection → Prop} {net : Network}

theorem Within.afterCall (h : Within R) {L α : Type} {wrap : L → Handle} {ended : α → Bool}
    {x : Owner L α} (hx : OwnerLeads R x) {l : L} {conn : Connection}
    {outcome : Outcome PgError Unit} {s' : Session}
    (hCall : Session.afterCall net wrap ended (x net (l, conn)) = (outcome, s')) :
    R net conn s'.conn := by
  have hLeads := hx net (l, conn)
  revert hLeads hCall
  match x net (l, conn) with
  | (.ok a, (l', conn')) =>
      intro hCall hLeads
      cases hCall
      split
      · exact h.trans hLeads (h.drop net _ _)
      · exact hLeads
  | (.err e, (l', conn')) =>
      intro hCall hLeads
      cases hCall
      exact h.trans hLeads (h.drop net _ _)
  | (.pending, (l', conn')) =>
      intro hCall hLeads
      cases hCall
      exact hLeads

theorem Within.onHandle (h : Within R) {call : HandleCall} {handle : Handle} {conn : Connection}
    {outcome : Outcome PgError Unit} {s' : Session}
    (hStep : Session.onHandle net conn call handle = some (outcome, s')) : R net conn s'.conn := by
  cases call with
  | release =>
      have hDrop := h.drop net handle conn
      cases handle <;> cases hStep <;> exact hDrop
  | next =>
      cases handle with
      | rowStream stream => exact h.afterCall h.parts.next (Option.some.inj hStep)
      | _ => cases hStep
  | consume =>
      cases handle with
      | rowStream stream => exact h.afterCall h.parts.consume (Option.some.inj hStep)
      | _ => cases hStep
  | fetch =>
      cases handle with
      | cursor cursor =>
          cases hStep
          exact h.parts.fetchNext net (cursor, conn)
      | _ => cases hStep
  | close =>
      cases handle with
      | cursor cursor =>
          cases hStep
          exact h.parts.closePortal _ _ net conn
      | _ => cases hStep
  | cursorNext fuel =>
      cases handle with
      | cursorStream stream =>
          exact h.afterCall (h.parts.cursorNext fuel) (Option.some.inj hStep)
      | _ => cases hStep
  | cursorConsume fuel =>
      cases handle with
      | cursorStream stream =>
          exact h.afterCall (h.parts.cursorConsume fuel) (Option.some.inj hStep)
      | _ => cases hStep
  | copyWrite data =>
      cases handle with
      | copyIn copy =>
          cases hStep
          exact h.parts.copyWrite data net (copy, conn)
      | _ => cases hStep
  | copyFinish =>
      cases handle with
      | copyIn copy => exact h.afterCall h.parts.finish (Option.some.inj hStep)
      | _ => cases hStep
  | copyCancel reason =>
      cases handle with
      | copyIn copy => exact h.afterCall (h.parts.cancel reason) (Option.some.inj hStep)
      | _ => cases hStep
  | copyRead =>
      cases handle with
      | copyOut copy => exact h.afterCall h.parts.readNext (Option.some.inj hStep)
      | _ => cases hStep

theorem Within.step (h : Within R) {s s' : Session} {call : Call} {outcome : Outcome PgError Unit}
    (hCount : call.isNaming → Leads R (Async.modify countName))
    (hStep : s.step net call = some (outcome, s')) : R net s.conn s'.conn := by
  obtain ⟨handle, conn⟩ := s
  cases call with
  | operation op =>
      cases handle with
      | none =>
          cases hStep
          exact h.parts.operation op hCount net conn
      | _ => cases hStep
  | opening opening =>
      cases handle with
      | none =>
          have hLeads := h.parts.opening opening hCount net conn
          simp only [Session.step] at hStep
          revert hLeads hStep
          rcases opening.run net conn with ⟨_ | _ | _, conn'⟩
          all_goals
            intro hStep hLeads
            cases hStep
            exact hLeads
      | _ => cases hStep
  | handle call => exact h.onHandle hStep

theorem Leads.onFree {w w' : World} {x : Client Unit} (hx : Leads R x)
    {outcome : Outcome PgError Unit} (hRun : w.onFree x = some (outcome, w')) :
    R w.net w.conn w'.conn := by
  obtain ⟨hRun, -⟩ := World.onFree_eq hRun
  have hLeads := hx w.net w.conn
  rw [hRun] at hLeads
  exact hLeads

/-- Whatever is done with a connection but to replace it. -/
theorem Within.action (h : Within R) {action : Action} {w w' : World}
    {outcome : Outcome PgError Unit}
    (hCount : ∀ call, action = .call call → call.isNaming → Leads R (Async.modify countName))
    (hRun : action.run w = some (outcome, w'))
    (hReconnect : ∀ rebuild fresh handshake, action ≠ .reconnect rebuild fresh handshake)
    (hWait : ∀ timeout, action = .waitForNotification timeout →
      Leads R (waitForNotification timeout)) :
    R w.net w.conn w'.conn := by
  cases action with
  | call request =>
      simp only [Action.run] at hRun
      cases hStep : w.session.step w.net request with
      | none => simp [hStep] at hRun
      | some result =>
          rw [hStep] at hRun
          cases hRun
          exact h.step (hCount request rfl) hStep
  | listen channel => exact Leads.onFree (h.parts.tracked _ _) hRun
  | unlisten channel => exact Leads.onFree (h.parts.tracked _ _) hRun
  | unlistenAll => exact Leads.onFree (h.parts.tracked _ _) hRun
  | setParam key value => exact Leads.onFree (h.parts.tracked _ _) hRun
  | setReconnectInitSql sql =>
      have hSet : Leads R (Action.setInitSql sql) := h.parts.modify (fun _ _ => rfl) fun _ => rfl
      exact hSet.onFree hRun
  | reset => exact Leads.onFree h.parts.reset hRun
  | close => exact Leads.onFree h.parts.close hRun
  | abort => exact Leads.onFree h.parts.abort hRun
  | retryReturned =>
      have hMark : Leads R Action.markReturned := h.parts.modify (fun _ _ => rfl) fun _ => rfl
      exact hMark.onFree hRun
  | waitForNotification timeout =>
      exact Leads.onFree (h.parts.map _ (hWait timeout rfl)) hRun
  | reconnect rebuild fresh handshake => exact absurd rfl (hReconnect rebuild fresh handshake)

end Connection
end PgClient
