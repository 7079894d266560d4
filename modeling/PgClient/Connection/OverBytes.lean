import PgClient.Effects.Ordinary
import PgClient.Notification.Fallback
import PgClient.Protocol.Chunked
import PgClient.Protocol.TableServer

/-!
The read loops over the bytes of the stream. In each round a loop of the source calls
`Codec::read_message`; over messages it takes the next entry of the inbox. A connection
does the same at both levels, however the stream is cut into reads.
-/

namespace PgClient
namespace Connection

open Drive Framing
open Codec (Chunk StreamEnd Incoming bytesOf bytesOf_cons Fits fits_cons fits_nil)

variable {L β : Type} {parse : Parser UInt8 IoError BackendMessage}

/-- The buffer of the codec, and the reads to come. -/
abbrev ByteStream := MessageBuffer × Incoming

/-- A loop that reads the next message in each round. -/
def byteRounds (parse : Parser UInt8 IoError BackendMessage)
    (body : L × Connection → BackendMessage → Step (L × Connection) (Except PgError β)) :
    Nat → L × Connection → ByteStream → Outcome PgError β × (L × Connection) × ByteStream
  | 0, s, stream => (.pending, s, stream)
  | rounds + 1, s, stream =>
      match Codec.readMessage parse () stream with
      | (.ok message, stream) =>
          match body s message with
          | .next s => byteRounds parse body rounds s stream
          | .exit result s => (Outcome.ofExcept result, s, stream)
      | (.err e, stream) => (.err e.toPgError, s, stream)
      | (.pending, stream) => (.pending, s, stream)

/-- No message is shorter than a byte, so that the rounds do not run out before the bytes. -/
def byteLoop (parse : Parser UInt8 IoError BackendMessage)
    (body : L × Connection → BackendMessage → Step (L × Connection) (Except PgError β))
    (s : L × Connection) (stream : ByteStream) :
    Outcome PgError β × (L × Connection) × ByteStream :=
  byteRounds parse body ((stream.1.inner ++ bytesOf stream.2.reads).length + 1) s stream

/-- The same connection with other messages unread and another end of the stream. -/
def setWire (conn : Connection) (inbox : List Entry) (ending : Option ReadError) : Connection :=
  { conn with transport.inbox := inbox, transport.ending := ending }

/-- A loop body that does not look at the messages that are unread. -/
def Sightless
    (body : L × Connection → BackendMessage → Step (L × Connection) (Except PgError β)) : Prop :=
  ∀ l conn inbox ending message, body (l, conn.setWire inbox ending) message =
    (body (l, conn) message).map fun s => (s.1, s.2.setWire inbox ending)

section Bodies

theorem handleAsyncMessage_setWire (conn : Connection) (inbox : List Entry)
    (ending : Option ReadError) (message : BackendMessage) :
    (conn.setWire inbox ending).handleAsyncMessage message =
      (conn.handleAsyncMessage message).map (·.setWire inbox ending) := by
  cases message with
  | noticeResponse body =>
      simp only [handleAsyncMessage]
      cases PgServerError.fromBody body <;> rfl
  | parameterStatus body =>
      simp only [handleAsyncMessage]
      cases body.name with
      | none => rfl
      | some name => cases body.value <;> rfl
  | _ => rfl

/-- The loops of the operations, which leave the wire alone. -/
theorem sightless_of_plain
    {body : L × Connection → BackendMessage → Step (L × Connection) (Except PgError β)}
    (h : Plain body) : Sightless body := by
  obtain ⟨other, rfl, hOther⟩ := h
  intro l conn inbox ending message
  simp only [asyncFirst, handleAsyncMessage_setWire]
  cases hAsync : conn.handleAsyncMessage message with
  | some conn' => rfl
  | none =>
      have hSelf := hOther l conn conn.aside message
      have hSame := hOther l conn (conn.setWire inbox ending).aside message
      rw [overlay_aside] at hSelf
      rw [show conn.overlay (conn.setWire inbox ending).aside = conn.setWire inbox ending from rfl]
        at hSame
      refine hSame.trans ?_
      rw [hSelf]
      cases other (l, conn) message <;> rfl

theorem sightless_notification : Sightless notificationBody := by
  intro value conn inbox ending message
  cases message with
  | noticeResponse body =>
      simp only [notificationBody_noticeResponse]
      cases PgServerError.fromBody body <;> rfl
  | parameterStatus body =>
      simp only [notificationBody_parameterStatus]
      cases body.name with
      | none => rfl
      | some name => cases body.value <;> rfl
  | _ => rfl

theorem sightless_emptyCycle : Sightless emptyCycleBody := by
  intro value conn inbox ending message
  cases message with
  | noticeResponse body =>
      simp only [emptyCycleBody]
      cases PgServerError.fromBody body <;> rfl
  | parameterStatus body =>
      simp only [emptyCycleBody]
      cases body.name with
      | none => rfl
      | some name => cases body.value <;> rfl
  | _ => rfl

end Bodies

section Reads

variable {inner rest : Bytes} {limit : Nat} {reads later : List Chunk} {ending : StreamEnd}
  {message : BackendMessage} {frame : Bytes} {frames : List (Bytes × BackendMessage)}

/-- The messages that are complete in a stream, what is left behind the last of them, and the
reads that will follow, none of which exceeds the limit. -/
structure Carries (parse : Parser UInt8 IoError BackendMessage) (later : List Chunk)
    (frames : List (Bytes × BackendMessage)) (rest : Bytes) (stream : ByteStream) : Prop where
  framed : Framing.Framed parse (stream.1.inner ++ bytesOf stream.2.reads) frames (.unfinished rest)
  within : stream.1.inner.length ≤ stream.1.maxBufferedBytes
  fits : Fits parse stream.1.maxBufferedBytes stream.1.inner (stream.2.reads ++ later)

/-- What has been read of a stream that goes on well-formed is not malformed. -/
theorem exists_unfinished (hParse : Lawful parse)
    (h : Framing.Framed parse (inner ++ bytesOf reads) frames (.unfinished rest)) :
    ∃ complete part, Framing.Framed parse inner complete (.unfinished part) := by
  obtain ⟨complete, tail, hInner⟩ := exists_framed hParse inner
  cases tail with
  | unfinished part => exact ⟨complete, part, hInner⟩
  | malformed e =>
      obtain ⟨-, hTail⟩ := h.unique (hInner.malformed_append hParse (bytesOf reads))
      cases hTail

theorem fits_frame (hFrame : IsFrame parse frame message)
    (h : Fits parse limit (frame ++ inner) reads) : Fits parse limit inner reads := by
  intro before chunk after complete part hReads hFramed
  refine h before chunk after ((frame, message) :: complete) part hReads ?_
  rw [List.append_assoc]
  exact .frame hFrame hFramed

/-- The next read is taken, where nothing is complete without it. -/
theorem carries_refill (hParse : Lawful parse) {chunk : Chunk}
    (hNone : parse inner = (.ok none, inner))
    (h : Carries parse later frames rest (⟨inner, limit⟩, ⟨chunk :: reads, ending⟩)) :
    Codec.readMessage parse () (⟨inner, limit⟩, ⟨chunk :: reads, ending⟩) =
        Codec.readMessage parse () (⟨inner ++ chunk.bytes, limit⟩, ⟨reads, ending⟩) ∧
      Carries parse later frames rest (⟨inner ++ chunk.bytes, limit⟩, ⟨reads, ending⟩) := by
  obtain ⟨hFirst, hFits⟩ := (fits_cons hParse (.unfinished hNone)).mp h.fits
  refine ⟨Codec.readMessage_refill hNone h.within hFirst, ?_, List.length_append ▸ hFirst, hFits⟩
  have hFramed := h.framed
  rw [bytesOf_cons] at hFramed
  rwa [List.append_assoc]

/-- A message that is buffered is the first one of the stream. -/
theorem carries_frame (hParse : Lawful parse) {first : BackendMessage} {buffered : Bytes}
    (hFrame : IsFrame parse buffered first)
    (h : Carries parse later ((frame, message) :: frames) rest
      (⟨buffered ++ inner, limit⟩, ⟨reads, ending⟩)) :
    first = message ∧ Carries parse later frames rest (⟨inner, limit⟩, ⟨reads, ending⟩) := by
  obtain ⟨others, tail, hOthers⟩ := exists_framed hParse (inner ++ bytesOf reads)
  have hAll := Framing.Framed.frame hFrame hOthers
  rw [← List.append_assoc] at hAll
  obtain ⟨hFrames, rfl⟩ := hAll.unique h.framed
  obtain ⟨hFirst, rfl⟩ := List.cons.inj hFrames
  have hWithin : (buffered ++ inner).length ≤ limit := h.within
  rw [List.length_append] at hWithin
  exact ⟨congrArg Prod.snd hFirst, hOthers, Nat.le_trans (Nat.le_add_left _ _) hWithin,
    fits_frame hFrame h.fits⟩

/-- The next message is read with the reads that it needs, and the stream carries the others. -/
theorem carries_next (hParse : Lawful parse) {inner : Bytes} {reads : List Chunk}
    (h : Carries parse later ((frame, message) :: frames) rest (⟨inner, limit⟩, ⟨reads, ending⟩)) :
    ∃ inner' reads',
      Codec.readMessage parse () (⟨inner, limit⟩, ⟨reads, ending⟩) =
        (.ok message, ⟨inner', limit⟩, ⟨reads', ending⟩) ∧
      Carries parse later frames rest (⟨inner', limit⟩, ⟨reads', ending⟩) := by
  induction reads generalizing inner with
  | nil =>
      obtain ⟨complete, part, hInner⟩ := exists_unfinished hParse h.framed
      cases hInner with
      | unfinished hNone =>
          have hFramed := h.framed
          rw [Codec.bytesOf_nil, List.append_nil] at hFramed
          cases (hFramed.unique (.unfinished hNone)).1
      | frame hFrame hRest =>
          obtain ⟨rfl, hCarries⟩ := carries_frame hParse hFrame h
          exact ⟨_, _, Codec.readMessage_frame hFrame h.within, hCarries⟩
  | cons chunk reads ih =>
      obtain ⟨complete, part, hInner⟩ := exists_unfinished hParse h.framed
      cases hInner with
      | unfinished hNone =>
          obtain ⟨hRead, hCarries⟩ := carries_refill hParse hNone h
          obtain ⟨inner', reads', hNext, hRest⟩ := ih hCarries
          exact ⟨inner', reads', hRead.trans hNext, hRest⟩
      | frame hFrame hRest =>
          obtain ⟨rfl, hCarries⟩ := carries_frame hParse hFrame h
          exact ⟨_, _, Codec.readMessage_frame hFrame h.within, hCarries⟩

/-- Where no message is complete all is read, and the stream has come to its end. -/
theorem carries_end (hParse : Lawful parse) {inner : Bytes} {reads : List Chunk}
    (h : Carries parse later [] rest (⟨inner, limit⟩, ⟨reads, ending⟩)) :
    Codec.readMessage parse () (⟨inner, limit⟩, ⟨reads, ending⟩) =
        (ending.outcome, ⟨rest, limit⟩, ⟨[], ending⟩) ∧
      Carries parse later [] rest (⟨rest, limit⟩, ⟨[], ending⟩) := by
  induction reads generalizing inner with
  | nil =>
      have hFramed := h.framed
      rw [Codec.bytesOf_nil, List.append_nil] at hFramed
      cases hFramed with
      | unfinished hNone => exact ⟨Codec.readMessage_end hNone h.within, h⟩
  | cons chunk reads ih =>
      obtain ⟨complete, part, hInner⟩ := exists_unfinished hParse h.framed
      obtain ⟨later', hNil, -⟩ := hInner.of_append hParse h.framed
      obtain ⟨rfl, -⟩ := List.append_eq_nil_iff.mp hNil.symm
      cases hInner with
      | unfinished hNone =>
          obtain ⟨hRead, hCarries⟩ := carries_refill hParse hNone h
          obtain ⟨hEnd, hRest⟩ := ih hCarries
          exact ⟨hRead.trans hEnd, hRest⟩

end Reads

section Loops

variable {limit : Nat} {ending : StreamEnd} {later : List Chunk} {rest : Bytes}
  {frames : List (Bytes × BackendMessage)}
  {body : L × Connection → BackendMessage → Step (L × Connection) (Except PgError β)}

/-- The end of a stream as the transport has it. -/
def endingOf : StreamEnd → Option ReadError
  | .waiting => none
  | .closed => some (.transport .unexpectedEof)
  | .failed e => some (.transport e)

/-- What becomes of a loop at the end of the stream. -/
def stopped : Option ReadError → Outcome PgError β
  | some e => .err e.toPgError
  | none => .pending

def entries (frames : List (Bytes × BackendMessage)) : List Entry :=
  frames.map fun frame => .ok frame.2

theorem messageLoop_eq (net : Network) (s : L × Connection) :
    messageLoop body net s =
      match drive (readStep body) s s.2.transport.inbox with
      | .done result s' rest => (Outcome.ofExcept result, (s'.1, s'.2.setInbox rest))
      | .waiting s' => (stopped s.2.transport.ending, (s'.1, s'.2.setInbox [])) := by
  rw [messageLoop]
  cases drive (readStep body) s s.2.transport.inbox with
  | done result s' rest => rfl
  | waiting s' =>
      cases s.2.transport.ending <;> rfl

theorem byteRounds_end (hParse : Lawful parse) {rounds : Nat} {inner : Bytes} {reads : List Chunk}
    (h : Carries parse later [] rest (⟨inner, limit⟩, ⟨reads, ending⟩)) (s : L × Connection) :
    byteRounds parse body (rounds + 1) s (⟨inner, limit⟩, ⟨reads, ending⟩) =
      (stopped (endingOf ending), s, (⟨rest, limit⟩, ⟨[], ending⟩)) := by
  rw [byteRounds, (carries_end hParse h).1]
  cases ending <;> rfl

section Rounds

variable {stream stream' : ByteStream} {message : BackendMessage} {s s' : L × Connection}
  {rounds : Nat} (hRead : Codec.readMessage parse () stream = (.ok message, stream'))

include hRead

theorem byteRounds_next (hNext : body s message = .next s') :
    byteRounds parse body (rounds + 1) s stream = byteRounds parse body rounds s' stream' := by
  rw [byteRounds, hRead]
  simp only [hNext]

theorem byteRounds_exit {result : Except PgError β} (hExit : body s message = .exit result s') :
    byteRounds parse body (rounds + 1) s stream = (Outcome.ofExcept result, s', stream') := by
  rw [byteRounds, hRead]
  simp only [hExit]

end Rounds

/-- By the messages that the stream carries: each round takes one of them, and the body does
with it what it does over messages. -/
theorem byteRounds_drive (hParse : Lawful parse) (hBody : Sightless body) {rounds : Nat}
    (hRounds : frames.length < rounds) {inner : Bytes} {reads : List Chunk}
    (h : Carries parse later frames rest (⟨inner, limit⟩, ⟨reads, ending⟩))
    (s : L × Connection) (inbox : List Entry) (closes : Option ReadError) :
    match drive (readStep body) (s.1, s.2.setWire inbox closes) (entries frames) with
    | .done result s' left => ∃ conn stream' unread,
        byteRounds parse body rounds s (⟨inner, limit⟩, ⟨reads, ending⟩) =
          (Outcome.ofExcept result, (s'.1, conn), stream') ∧
        s'.2 = conn.setWire inbox closes ∧ left = entries unread ∧
        Carries parse later unread rest stream' ∧ stream'.2.ending = ending
    | .waiting s' => ∃ conn,
        byteRounds parse body rounds s (⟨inner, limit⟩, ⟨reads, ending⟩) =
          (stopped (endingOf ending), (s'.1, conn), (⟨rest, limit⟩, ⟨[], ending⟩)) ∧
        s'.2 = conn.setWire inbox closes ∧
        Carries parse later [] rest (⟨rest, limit⟩, ⟨[], ending⟩) := by
  induction frames generalizing rounds s inner reads with
  | nil =>
      obtain ⟨more, rfl⟩ : ∃ more, rounds = more + 1 := ⟨rounds - 1, by omega⟩
      exact ⟨s.2, byteRounds_end hParse h s, rfl, (carries_end hParse h).2⟩
  | cons frame frames ih =>
      obtain ⟨more, rfl⟩ : ∃ more, rounds = more + 1 := ⟨rounds - 1, by omega⟩
      obtain ⟨inner', reads', hRead, hCarries⟩ := carries_next hParse h
      have hStep : readStep body (s.1, s.2.setWire inbox closes) (.ok frame.2) =
          (body s frame.2).map fun s => (s.1, s.2.setWire inbox closes) :=
        hBody s.1 s.2 inbox closes frame.2
      cases hNext : body s frame.2 with
      | next s' =>
          rw [hNext, Step.map_next] at hStep
          rw [entries, List.map_cons, drive_cons_next _ _ hStep, byteRounds_next hRead hNext]
          exact ih (Nat.lt_of_succ_lt_succ hRounds) hCarries s'
      | exit result s' =>
          rw [hNext, Step.map_exit] at hStep
          rw [entries, List.map_cons, drive_cons_exit _ _ hStep, byteRounds_exit hRead hNext]
          exact ⟨s'.2, _, frames, rfl, rfl, rfl, hCarries, rfl⟩

end Loops

section Runs

theorem bytesOf_snoc (reads : List Chunk) (chunk : Chunk) :
    bytesOf (reads ++ [chunk]) = bytesOf reads ++ chunk.bytes := by
  rw [bytesOf, List.flatMap_append, List.flatMap_singleton]
  rfl

/-- A read loop of the source with what it starts from. -/
structure ReadLoop where
  Local : Type
  Result : Type
  body : Local × Connection → BackendMessage → Step (Local × Connection) (Except PgError Result)
  start : Local
  sightless : Sightless body

/-- What happens on a connection: one of its loops reads, it does something else, more of the
stream arrives, or the stream comes to an end. -/
inductive WireEvent (ρ : Type) where
  | read (loop : ReadLoop)
  | change (f : Connection → Connection)
      (h : ∀ conn inbox ending, f (conn.setWire inbox ending) = (f conn).setWire inbox ending)
  | arrive (what : ρ)
  | close (ending : StreamEnd)

/-- What a loop has returned. -/
structure Returned where
  Local : Type
  Result : Type
  outcome : Outcome PgError Result
  value : Local

def byteStep (parse : Parser UInt8 IoError BackendMessage) :
    WireEvent Chunk → Connection × ByteStream → List Returned × Connection × ByteStream
  | .read loop, s =>
      let result := byteLoop parse loop.body (loop.start, s.1) s.2
      ([⟨loop.Local, loop.Result, result.1, result.2.1.1⟩], result.2.1.2, result.2.2)
  | .change f _, s => ([], f s.1, s.2)
  | .arrive chunk, s => ([], s.1, s.2.1, { s.2.2 with reads := s.2.2.reads ++ [chunk] })
  | .close ending, s => ([], s.1, s.2.1, { s.2.2 with ending })

def messageStep (net : Network) :
    WireEvent (List BackendMessage) → Connection → List Returned × Connection
  | .read loop, conn =>
      let result := messageLoop loop.body net (loop.start, conn)
      ([⟨loop.Local, loop.Result, result.1, result.2.1⟩], result.2.2)
  | .change f _, conn => ([], f conn)
  | .arrive messages, conn =>
      ([], conn.setInbox (conn.transport.inbox ++ messages.map .ok))
  | .close ending, conn => ([], { conn with transport.ending := endingOf ending })

def byteRun (parse : Parser UInt8 IoError BackendMessage) :
    List (WireEvent Chunk) → Connection × ByteStream → List Returned × Connection × ByteStream
  | [], s => ([], s)
  | event :: events, s =>
      let first := byteStep parse event s
      let others := byteRun parse events first.2
      (first.1 ++ others.1, others.2)

def messageRun (net : Network) :
    List (WireEvent (List BackendMessage)) → Connection → List Returned × Connection
  | [], conn => ([], conn)
  | event :: events, conn =>
      let first := messageStep net event conn
      let others := messageRun net events first.2
      (first.1 ++ others.1, others.2)

/-- What arrives in the course of a run. -/
def arrivals {ρ : Type} : List (WireEvent ρ) → List ρ
  | [] => []
  | .arrive what :: events => what :: arrivals events
  | _ :: events => arrivals events

/-- The same events over bytes and over messages: a message arrives with its last byte. -/
inductive Decodes (parse : Parser UInt8 IoError BackendMessage) :
    Bytes → List (WireEvent Chunk) → List (WireEvent (List BackendMessage)) → Prop where
  | nil {rest : Bytes} : Decodes parse rest [] []
  | read {rest : Bytes} {loop : ReadLoop} {events messages}
      (h : Decodes parse rest events messages) :
      Decodes parse rest (.read loop :: events) (.read loop :: messages)
  | change {rest : Bytes} {f hf events messages} (h : Decodes parse rest events messages) :
      Decodes parse rest (.change f hf :: events) (.change f hf :: messages)
  | arrive {rest part : Bytes} {chunk : Chunk} {frames events messages}
      (hFramed : Framing.Framed parse (rest ++ chunk.bytes) frames (.unfinished part))
      (h : Decodes parse part events messages) :
      Decodes parse rest (.arrive chunk :: events) (.arrive (frames.map Prod.snd) :: messages)
  | close {rest : Bytes} {ending : StreamEnd} {events messages}
      (h : Decodes parse rest events messages) :
      Decodes parse rest (.close ending :: events) (.close ending :: messages)

/-- A connection over bytes and the one over messages: what the stream carries is unread. -/
def Refines (parse : Parser UInt8 IoError BackendMessage) (later : List Chunk) (rest : Bytes)
    (s : Connection × ByteStream) (conn : Connection) : Prop :=
  ∃ frames, Carries parse later frames rest s.2 ∧
    conn = s.1.setWire (entries frames) (endingOf s.2.2.ending)

variable {later : List Chunk} {rest : Bytes} {s : Connection × ByteStream} {conn : Connection}
  {events : List (WireEvent Chunk)} {messages : List (WireEvent (List BackendMessage))}

theorem refines_loop (hParse : Lawful parse) (net : Network) (loop : ReadLoop)
    (h : Refines parse later rest s conn) :
    (byteStep parse (.read loop) s).1 = (messageStep net (.read loop) conn).1 ∧
      Refines parse later rest (byteStep parse (.read loop) s).2
        (messageStep net (.read loop) conn).2 := by
  obtain ⟨conn', ⟨inner, limit⟩, ⟨reads, ending⟩⟩ := s
  obtain ⟨frames, hCarries, rfl⟩ := h
  have hRounds : frames.length < (inner ++ bytesOf reads).length + 1 :=
    Nat.lt_succ_of_le hCarries.framed.length_frames
  have hDrive := byteRounds_drive hParse loop.sightless hRounds hCarries (loop.start, conn')
    (entries frames) (endingOf ending)
  have hInbox : (conn'.setWire (entries frames) (endingOf ending)).transport.inbox =
    entries frames := rfl
  simp only [byteStep, messageStep, messageLoop_eq, byteLoop, hInbox]
  revert hDrive
  cases drive (readStep loop.body)
      (loop.start, conn'.setWire (entries frames) (endingOf ending)) (entries frames) with
  | done result s' left =>
      rintro ⟨conn₁, stream₁, unread, hRounds, hConn, rfl, hUnread, hEnding⟩
      rw [hRounds]
      refine ⟨rfl, unread, hUnread, ?_⟩
      rw [hEnding]
      exact congrArg (·.setInbox (entries unread)) hConn
  | waiting s' =>
      rintro ⟨conn₁, hRounds, hConn, hUnread⟩
      rw [hRounds]
      exact ⟨rfl, [], hUnread, congrArg (·.setInbox []) hConn⟩

/-- A read that arrives completes the messages that it ends. -/
theorem refines_arrive (net : Network) {chunk : Chunk} {part : Bytes}
    {frames : List (Bytes × BackendMessage)}
    (hFramed : Framing.Framed parse (rest ++ chunk.bytes) frames (.unfinished part))
    (h : Refines parse (chunk :: later) rest s conn) :
    Refines parse later part (byteStep parse (.arrive chunk) s).2
      (messageStep net (.arrive (frames.map Prod.snd)) conn).2 := by
  obtain ⟨unread, hCarries, rfl⟩ := h
  have hAll := hCarries.framed.extend hFramed
  have hFits := hCarries.fits
  rw [List.append_cons] at hFits
  refine ⟨unread ++ frames, ⟨?_, hCarries.within, hFits⟩, ?_⟩
  · rw [List.append_assoc, ← bytesOf_snoc] at hAll
    exact hAll
  · have hEntries : entries (unread ++ frames) =
        entries unread ++ (frames.map Prod.snd).map .ok := by simp [entries]
    rw [hEntries]
    rfl

/-- By the events of the run. -/
theorem refines_run (hParse : Lawful parse) (net : Network)
    (hDecodes : Decodes parse rest events messages)
    (h : Refines parse (arrivals events) rest s conn) :
    (byteRun parse events s).1 = (messageRun net messages conn).1 ∧
      ∃ part, Refines parse [] part (byteRun parse events s).2
        (messageRun net messages conn).2 := by
  induction hDecodes generalizing s conn with
  | @nil rest => exact ⟨rfl, rest, h⟩
  | @read rest loop events messages _ ih =>
      obtain ⟨hFirst, hNext⟩ := refines_loop hParse net loop h
      obtain ⟨hOthers, hLast⟩ := ih hNext
      exact ⟨by simp only [byteRun, messageRun, hFirst, hOthers], hLast⟩
  | @change rest f hf events messages _ ih =>
      obtain ⟨unread, hCarries, rfl⟩ := h
      have hNext : Refines parse (arrivals events) rest (f s.1, s.2)
          (f (s.1.setWire (entries unread) (endingOf s.2.2.ending))) :=
        ⟨unread, hCarries, hf _ _ _⟩
      obtain ⟨hOthers, hLast⟩ := ih hNext
      exact ⟨hOthers, hLast⟩
  | @arrive rest part chunk frames events messages hFramed _ ih =>
      obtain ⟨hOthers, hLast⟩ := ih (refines_arrive net hFramed h)
      exact ⟨hOthers, hLast⟩
  | @close rest ending events messages _ ih =>
      obtain ⟨unread, hCarries, rfl⟩ := h
      have hNext : Refines parse (arrivals events) rest
          (s.1, s.2.1, { s.2.2 with ending })
          (s.1.setWire (entries unread) (endingOf ending)) :=
        ⟨unread, ⟨hCarries.framed, hCarries.within, hCarries.fits⟩, rfl⟩
      obtain ⟨hOthers, hLast⟩ := ih hNext
      exact ⟨hOthers, hLast⟩

/-- A stream that is well-formed to its last byte can be decoded as it arrives. -/
theorem exists_decodes (hParse : Lawful parse) {last : Bytes}
    {frames : List (Bytes × BackendMessage)}
    (hNone : parse rest = (.ok none, rest))
    (hStream : Framing.Framed parse (rest ++ bytesOf (arrivals events)) frames (.unfinished last)) :
    ∃ messages, Decodes parse rest events messages ∧
      (arrivals messages).flatten = frames.map Prod.snd := by
  induction events generalizing rest frames with
  | nil =>
      rw [arrivals, Codec.bytesOf_nil, List.append_nil] at hStream
      obtain ⟨rfl, -⟩ := hStream.unique (.unfinished hNone)
      exact ⟨[], .nil, rfl⟩
  | cons event events ih =>
      cases event with
      | read loop =>
          obtain ⟨messages, hDecodes, hSame⟩ := ih hNone hStream
          exact ⟨_, .read hDecodes, hSame⟩
      | change f hf =>
          obtain ⟨messages, hDecodes, hSame⟩ := ih hNone hStream
          exact ⟨_, @Decodes.change parse rest f hf _ _ hDecodes, hSame⟩
      | close ending =>
          obtain ⟨messages, hDecodes, hSame⟩ := ih hNone hStream
          exact ⟨_, .close hDecodes, hSame⟩
      | arrive chunk =>
          rw [arrivals, bytesOf_cons, ← List.append_assoc] at hStream
          obtain ⟨complete, part, hComplete⟩ := exists_unfinished hParse hStream
          obtain ⟨others, rfl, hOthers⟩ := hComplete.of_append hParse hStream
          obtain ⟨messages, hDecodes, hSame⟩ := ih hComplete.parse_unfinished hOthers
          refine ⟨_, .arrive hComplete hDecodes, ?_⟩
          rw [arrivals, List.flatten_cons, hSame, List.map_append]

/-- However the bytes of the server are cut into reads, and whenever these arrive, the loops of a
connection return what they return over the messages, and leave the connection as they do. -/
theorem byteRun_refines (hParse : Lawful parse) (hEmpty : parse [] = (.ok none, []))
    (net : Network) (limit : Nat) (conn : Connection) {last : Bytes}
    {frames : List (Bytes × BackendMessage)}
    (hStream : Framing.Framed parse (bytesOf (arrivals events)) frames (.unfinished last))
    (hFits : Fits parse limit [] (arrivals events)) :
    ∃ messages, Decodes parse [] events messages ∧
      (arrivals messages).flatten = frames.map Prod.snd ∧
      (byteRun parse events (conn, ⟨[], limit⟩, ⟨[], .waiting⟩)).1 =
        (messageRun net messages (conn.setWire [] none)).1 ∧
      ∃ part, Refines parse [] part (byteRun parse events (conn, ⟨[], limit⟩, ⟨[], .waiting⟩)).2
        (messageRun net messages (conn.setWire [] none)).2 := by
  obtain ⟨messages, hDecodes, hSame⟩ := exists_decodes hParse hEmpty hStream
  have hStart : Refines parse (arrivals events) [] (conn, ⟨[], limit⟩, ⟨[], .waiting⟩)
      (conn.setWire [] none) :=
    ⟨[], ⟨.unfinished hEmpty, Nat.zero_le _, hFits⟩, rfl⟩
  exact ⟨messages, hDecodes, hSame, refines_run hParse net hDecodes hStart⟩

/-- The message of a frame of a stream that has these two kinds only. -/
def readMessageOf (frame : Bytes) : BackendMessage :=
  if frame.head? = some 90 then .readyForQuery (frame.getD 5 0) else .copyData (frame.drop 5)

def twoMessages : Parser UInt8 IoError BackendMessage :=
  Parser.map readMessageOf Codec.parseFrame

def readUntilReadyLoop : ReadLoop where
  Local := Unit
  Result := Unit
  body := readUntilReadyBody
  start := ()
  sightless := sightless_of_plain nameless_readUntilReady.1

/-- A `ReadyForQuery` of which the first read holds the type only. -/
def splitReady : List (WireEvent Chunk) :=
  [.arrive ⟨[90], List.cons_ne_nil _ _, Nat.le_of_ble_eq_true rfl⟩,
    .arrive ⟨[0, 0, 0, 5, 73], List.cons_ne_nil _ _, Nat.le_of_ble_eq_true rfl⟩,
    .read readUntilReadyLoop]

theorem byteRun_refines_split :
    (byteRun twoMessages splitReady
      (.new, ⟨[], 8⟩, ⟨[], .waiting⟩)).1 = [⟨Unit, Unit, .ok (), ()⟩] ∧
    ∃ messages, Decodes twoMessages [] splitReady messages ∧
      (arrivals messages).flatten = [.readyForQuery 73] ∧
      (byteRun twoMessages splitReady
        (.new, ⟨[], 8⟩, ⟨[], .waiting⟩)).1 =
        (messageRun ReplyTable.oneRow.network messages (Connection.new.setWire [] none)).1 := by
  have hFrame : IsFrame twoMessages Codec.readyFrame (.readyForQuery 73) :=
    Codec.isFrame_ready.map readMessageOf
  have hStream : Framing.Framed twoMessages (bytesOf (arrivals splitReady))
      [(Codec.readyFrame, .readyForQuery 73)] (.unfinished []) := .frame hFrame (.unfinished rfl)
  obtain ⟨messages, hDecodes, hSame, hReturned, -⟩ :=
    byteRun_refines (Codec.parseFrame_lawful.map readMessageOf) rfl ReplyTable.oneRow.network 8 .new
      hStream (Codec.fits_of_length (by decide))
  exact ⟨rfl, messages, hDecodes, hSame, hReturned⟩

end Runs

end Connection
end PgClient
