import PgClient.Protocol.TableServer

/-!
Servers that take every simple query for a COPY: one from the client, whose data they wait for,
or one to it.
-/

namespace PgClient
namespace CopyServer

def format : CopyResponseBody := { format := 0, columnFormats := .ok [] }

/-- Whether data of a COPY may come after these messages. -/
def waiting : List FrontendMessage → Bool
  | [] => false
  | .query _ :: history => !waiting history
  | .copyData _ :: history | .sync :: history | .flush :: history | .terminate :: history =>
      waiting history
  | _ :: _ => false

def mode (history : List FrontendMessage) : Mode := if waiting history then .copyIn else .ready

def reply (history : List FrontendMessage) (message : FrontendMessage) : List BackendMessage :=
  if waiting history then
    match message with
    | .copyData _ | .sync | .flush | .terminate => []
    | .copyDone => [.commandComplete (some "COPY 0"), .readyForQuery 73]
    | _ => [.errorResponse { fields := .ok [] }, .readyForQuery 73]
  else
    match message with
    | .query _ => [.copyInResponse format]
    | message => ReplyTable.oneRow.reply history message

def network : Network where
  frontend := fun _ => .ok [0]
  frontendTotal := fun _ => [0]
  typeFromOid := some
  answer := fun history message => { messages := (reply history message).map .ok, closes := none }
  writeError := fun _ => none
  flushError := fun _ => none

theorem reply_mode (history : List FrontendMessage) (message : FrontendMessage) :
    Reply (mode history) message (reply history message) (mode (message :: history)) := by
  cases hWaits : waiting history with
  | true =>
      have hMode : mode history = .copyIn := by simp [mode, hWaits]
      rw [hMode]
      cases message with
      | copyData data =>
          simpa [mode, reply, waiting, hWaits] using Reply.copyData .copyIn (.inl rfl) data
      | sync =>
          simpa [mode, reply, waiting, hWaits] using
            @Reply.copyIgnored .copyIn (.inl rfl) .sync (.inl rfl)
      | flush =>
          simpa [mode, reply, waiting, hWaits] using
            @Reply.copyIgnored .copyIn (.inl rfl) .flush (.inr rfl)
      | terminate => simpa [mode, reply, waiting, hWaits] using Reply.terminate .copyIn
      | copyDone =>
          simpa [mode, reply, waiting, hWaits] using
            Reply.copyDone (some "COPY 0") (SimpleReply.ready 73)
      | _ =>
          simpa [mode, reply, waiting, hWaits] using Reply.copyError (by simp) _ 73
  | false =>
      have hMode : mode history = .ready := by simp [mode, hWaits]
      rw [hMode]
      cases message with
      | query sql =>
          simpa [mode, reply, waiting, hWaits] using Reply.query sql (.copyIn format) (by simp)
      | _ =>
          simpa [mode, reply, waiting, hWaits] using
            ReplyTable.oneRow.reply_ready history _

theorem replyOf_reply (history : List FrontendMessage) (message : FrontendMessage) :
    replyOf ((reply history message).map .ok) = reply history message := by
  simp only [reply]
  split
  · cases message <;> rfl
  · cases message with
    | query sql => rfl
    | _ => exact ReplyTable.oneRow.replyOf_reply history _

def server : Server network where
  mode := mode
  mode_nil := rfl
  follows history message :=
    Answer.follows_of_reply rfl (reply_mode history message) (replyOf_reply history message)

theorem wellFormed : network.WellFormed := by
  intro history message entry hMem
  have hTable : ∀ message, entry ∈ (ReplyTable.oneRow.reply history message).map .ok →
      entry.wellFormed := fun message => ReplyTable.oneRow_wellFormed history message entry
  simp only [network, reply] at hMem
  split at hMem
  · cases message with
    | copyData | sync | flush | terminate => cases hMem
    | _ =>
        simp only [List.map_cons, List.map_nil, List.mem_cons, List.not_mem_nil, or_false] at hMem
        obtain rfl | rfl := hMem <;> rfl
  · cases message with
    | query sql =>
        simp only [List.map_cons, List.map_nil, List.mem_singleton] at hMem
        subst hMem
        rfl
    | _ => exact hTable _ hMem

end CopyServer

namespace CopyOutServer

/-- Every simple query is answered with a COPY of two chunks to the client. -/
def reply (history : List FrontendMessage) : FrontendMessage → List BackendMessage
  | .query _ => [.copyOutResponse CopyServer.format, .copyData [97], .copyData [98, 10], .copyDone,
      .commandComplete (some "COPY 1"), .readyForQuery 73]
  | message => ReplyTable.oneRow.reply history message

def network : Network where
  frontend := fun _ => .ok [0]
  frontendTotal := fun _ => [0]
  typeFromOid := some
  answer := fun history message => { messages := (reply history message).map .ok, closes := none }
  writeError := fun _ => none
  flushError := fun _ => none

theorem reply_ready (history : List FrontendMessage) (message : FrontendMessage) :
    Reply .ready message (reply history message) .ready := by
  cases message with
  | query sql =>
      have hReply : SimpleReply (.copyOutResponse CopyServer.format ::
          [[97], [98, 10]].map .copyData ++ [.copyDone, .commandComplete (some "COPY 1")] ++
            [.readyForQuery 73]) .ready := .statement (.copyOut _ _ _) (.ready 73)
      exact .query sql hReply (by simp [reply])
  | _ => exact ReplyTable.oneRow.reply_ready history _

theorem replyOf_reply (history : List FrontendMessage) (message : FrontendMessage) :
    replyOf ((reply history message).map .ok) = reply history message := by
  cases message with
  | query sql => rfl
  | _ =>
      simp only [reply]
      exact ReplyTable.oneRow.replyOf_reply history _

def server : Server network where
  mode := fun _ => .ready
  mode_nil := rfl
  follows history message :=
    Answer.follows_of_reply rfl (reply_ready history message) (replyOf_reply history message)

theorem wellFormed : network.WellFormed := by
  intro history message entry hMem
  have hTable : ∀ message, entry ∈ (ReplyTable.oneRow.reply history message).map .ok →
      entry.wellFormed := fun message => ReplyTable.oneRow_wellFormed history message entry
  simp only [network] at hMem
  cases message with
  | query sql =>
      simp only [reply, List.map_cons, List.map_nil, List.mem_cons, List.not_mem_nil,
        or_false] at hMem
      obtain rfl | rfl | rfl | rfl | rfl | rfl := hMem <;> rfl
  | _ =>
      simp only [reply] at hMem
      exact hTable _ hMem

end CopyOutServer
end PgClient
