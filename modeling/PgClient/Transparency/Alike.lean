import PgClient.Effects.Ordinary
import PgClient.Library.TwoRuns
import PgClient.Connection.Request

/-!
Networks, transports and connections that are alike but for some of what the server sends,
and writing on them, which does not tell them apart.
-/

namespace PgClient

open Drive Async

/-- The same entries but for those that are hidden. -/
def SameBut (hidden : Entry → Bool) (entries entries' : List Entry) : Prop :=
  entries.filter (fun entry => !hidden entry) = entries'.filter fun entry => !hidden entry

theorem sameBut_append {hidden : Entry → Bool} {entries entries' later later' : List Entry}
    (h : SameBut hidden entries entries') (hLater : SameBut hidden later later') :
    SameBut hidden (entries ++ later) (entries' ++ later') := by
  simp only [SameBut, List.filter_append] at *
  rw [h, hLater]

/-- The same protocol library and the same server but for what `alike` leaves open. -/
structure Network.Alike (alike : List Entry → List Entry → Prop) (net net' : Network) : Prop where
  frontend : net.frontend = net'.frontend
  frontendTotal : net.frontendTotal = net'.frontendTotal
  typeFromOid : net.typeFromOid = net'.typeFromOid
  writeError : net.writeError = net'.writeError
  flushError : net.flushError = net'.flushError
  closes : ∀ history message,
    (net.answer history message).closes = (net'.answer history message).closes
  messages : ∀ history message,
    alike (net.answer history message).messages (net'.answer history message).messages

structure Transport.Alike (alike : List Entry → List Entry → Prop) (t t' : Transport) : Prop where
  writeBuf : t.writeBuf = t'.writeBuf
  history : t.history = t'.history
  ending : t.ending = t'.ending
  inbox : alike t.inbox t'.inbox

/-- What comes later can be put after what came before. -/
def Appends (alike : List Entry → List Entry → Prop) : Prop :=
  ∀ entries entries' later later', alike entries entries' → alike later later' →
    alike (entries ++ later) (entries' ++ later')

section Transports

variable {alike : List Entry → List Entry → Prop} {net net' : Network} {t t' : Transport}

theorem Network.Alike.encode (h : net.Alike alike net') (message : FrontendMessage) :
    net.encode message = net'.encode message := by
  unfold Network.encode
  rw [h.frontend, h.frontendTotal]

theorem Transport.Alike.push (h : t.Alike alike t') (frame : Frame) :
    (t.push frame).Alike alike (t'.push frame) :=
  ⟨by simp [Transport.push, h.writeBuf], h.history, h.ending, h.inbox⟩

theorem Transport.Alike.deliver (hAppends : Appends alike) (hNet : net.Alike alike net')
    (h : t.Alike alike t') (message : FrontendMessage) :
    (t.deliver net message).Alike alike (t'.deliver net' message) := by
  simp only [Transport.deliver, ← h.ending]
  cases t.ending with
  | some e => exact ⟨h.writeBuf, by simp [h.history], rfl, h.inbox⟩
  | none =>
      refine ⟨h.writeBuf, by simp [h.history], ?_, ?_⟩
      · simpa only [h.history] using hNet.closes t'.history message
      · have hMessages := hNet.messages t.history message
        rw [← h.history]
        exact hAppends _ _ _ _ h.inbox hMessages

theorem Transport.Alike.deliverAll (hAppends : Appends alike) (hNet : net.Alike alike net')
    (messages : List FrontendMessage) {t t' : Transport} (h : t.Alike alike t') :
    (t.deliverAll net messages).Alike alike (t'.deliverAll net' messages) := by
  induction messages generalizing t t' with
  | nil => exact h
  | cons message messages ih => exact ih (h.deliver hAppends hNet message)

/-- The flush of one transport fails as that of the other does, or both go through. -/
theorem Transport.Alike.flushWrite (hAppends : Appends alike) (hNet : net.Alike alike net')
    (h : t.Alike alike t') :
    match t.flushWrite net, t'.flushWrite net' with
    | .ok sent, .ok sent' => sent.Alike alike sent'
    | .error e, .error e' => e = e'
    | _, _ => False := by
  simp only [Transport.flushWrite, ← h.writeBuf, ← h.history, ← hNet.writeError]
  by_cases hBuf : t.writeBuf = []
  · simpa only [if_pos hBuf] using h
  · simp only [if_neg hBuf]
    cases net.writeError t.history with
    | some e => rfl
    | none =>
        exact Transport.Alike.deliverAll hAppends hNet _ ⟨rfl, rfl, h.ending, h.inbox⟩

end Transports

namespace Connection

/-- Alike but for what is unread, and for what notices, parameters and notifications leave. -/
structure Alike (alike : List Entry → List Entry → Prop) (conn conn' : Connection) : Prop where
  transport : conn.transport.Alike alike conn'.transport
  rest : conn'.overlay conn.aside = conn

section Writing

variable {alike : List Entry → List Entry → Prop} {conn conn' : Connection}

theorem Alike.eq_overlay (h : conn.Alike alike conn') : conn' = conn.overlay conn'.aside := by
  rw [← h.rest, overlay_overlay, overlay_aside]

theorem Alike.setTransport (h : conn.Alike alike conn') {t t' : Transport}
    (hTransport : t.Alike alike t') :
    Alike alike { conn with transport := t } { conn' with transport := t' } := by
  refine ⟨hTransport, ?_⟩
  rw [h.eq_overlay]
  rfl

/-- A change of neither the wire nor what comes unasked. -/
theorem Alike.map (h : conn.Alike alike conn') {f : Connection → Connection}
    (hf : ∀ conn a, f (conn.overlay a) = (f conn).overlay a) :
    Alike alike (f conn) (f conn') := by
  have hAside : ∀ conn : Connection, (f conn).aside = conn.aside := by
    intro conn
    have hSame := hf conn conn.aside
    rw [overlay_aside] at hSame
    rw [hSame, aside_overlay]
  have hTransport : ∀ conn : Connection, (f conn).transport = conn.transport :=
    fun conn => congrArg Aside.transport (hAside conn)
  refine ⟨by rw [hTransport, hTransport]; exact h.transport, ?_⟩
  rw [hAside, ← hf, h.rest]

variable (hAppends : Appends alike)

include hAppends

theorem respects_flush : Respects (Network.Alike alike) (Alike alike) flush := by
  intro net net' conn conn' hNet h
  have hFlush := h.transport.flushWrite hAppends hNet
  simp only [flush]
  revert hFlush
  cases conn.transport.flushWrite net with
  | error e =>
      cases conn'.transport.flushWrite net' with
      | error e' =>
          rintro rfl
          exact ⟨rfl, h⟩
      | ok t' => exact False.elim
  | ok t =>
      cases conn'.transport.flushWrite net' with
      | error e' => exact False.elim
      | ok t' =>
          intro hSent
          dsimp only
          rw [← hSent.history, ← hNet.flushError]
          cases net.flushError t.history <;> exact ⟨rfl, h.setTransport hSent⟩

theorem respects_shutdown : Respects (Network.Alike alike) (Alike alike) shutdown := by
  intro net net' conn conn' hNet h
  have hFlush := h.transport.flushWrite hAppends hNet
  simp only [shutdown]
  revert hFlush
  cases conn.transport.flushWrite net with
  | error e =>
      cases conn'.transport.flushWrite net' with
      | error e' =>
          rintro rfl
          exact ⟨rfl, h⟩
      | ok t' => exact False.elim
  | ok t =>
      cases conn'.transport.flushWrite net' with
      | error e' => exact False.elim
      | ok t' => exact fun hSent => ⟨rfl, h.setTransport hSent⟩

theorem respects_encodeAndWrite (message : FrontendMessage) :
    Respects (Network.Alike alike) (Alike alike) (encodeAndWrite message) := by
  intro net net' conn conn' hNet h
  rw [encodeAndWrite_apply, encodeAndWrite_apply, ← hNet.encode]
  cases net.encode message with
  | error e => exact ⟨rfl, h⟩
  | ok bytes =>
      have hPush := h.transport.push { message, bytes }
      have hLen : (conn.transport.push { message, bytes }).bufferedLen =
          (conn'.transport.push { message, bytes }).bufferedLen := by
        rw [Transport.bufferedLen, Transport.bufferedLen, hPush.writeBuf]
      have hFlush := hPush.flushWrite hAppends hNet
      simp only [writeAll, ← hLen]
      by_cases hFull : Transport.writeBufferFlushThreshold ≤
          (conn.transport.push { message, bytes }).bufferedLen
      · simp only [if_pos hFull]
        revert hFlush
        cases (conn.transport.push { message, bytes }).flushWrite net with
        | error e =>
            cases (conn'.transport.push { message, bytes }).flushWrite net' with
            | error e' =>
                rintro rfl
                exact ⟨rfl, h.setTransport hPush⟩
            | ok t' => exact False.elim
        | ok t =>
            cases (conn'.transport.push { message, bytes }).flushWrite net' with
            | error e' => exact False.elim
            | ok t' => exact fun hSent => ⟨rfl, h.setTransport hSent⟩
      · rw [if_neg hFull, if_neg hFull]
        exact ⟨rfl, h.setTransport hPush⟩

theorem respects_send (message : FrontendMessage) :
    Respects (Network.Alike alike) (Alike alike) (send message) :=
  respects_bind (respects_encodeAndWrite hAppends message) fun _ => respects_flush hAppends

end Writing

end Connection
end PgClient
