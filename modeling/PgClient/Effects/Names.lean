import PgClient.Effects.Within

/-!
The names of prepared statements and of portals: both are numbered by one counter, which
nothing but the drawing of a name touches and a reconnect keeps.
-/

namespace PgClient

open Drive Async Connection

/-- The actions that draw a name. -/
def Action.isNaming : Action → Bool
  | .call request => request.isNaming
  | _ => false

def Action.replaces : Action → Bool
  | .reconnect _ _ _ => true
  | _ => false

section Drawn

variable {α : Type} {name : Nat → α} {limit limit' : Nat} {names : List α}

/-- Names that were drawn one after another, the last one first, of numbers below a limit. -/
def Drawn (name : Nat → α) (limit : Nat) (names : List α) : Prop :=
  ∃ numbers : List Nat, names = numbers.map name ∧ numbers.Pairwise (· > ·) ∧
    ∀ number ∈ numbers, number < limit

theorem drawn_nil : Drawn name limit [] :=
  ⟨[], rfl, .nil, fun _ hMem => absurd hMem List.not_mem_nil⟩

theorem Drawn.mono (h : Drawn name limit names) (hLimit : limit ≤ limit') :
    Drawn name limit' names := by
  obtain ⟨numbers, rfl, hSorted, hBelow⟩ := h
  exact ⟨numbers, rfl, hSorted, fun number hMem => Nat.lt_of_lt_of_le (hBelow number hMem) hLimit⟩

theorem Drawn.cons (h : Drawn name limit names) : Drawn name (limit + 1) (name limit :: names) := by
  obtain ⟨numbers, rfl, hSorted, hBelow⟩ := h
  refine ⟨limit :: numbers, rfl, List.pairwise_cons.mpr ⟨hBelow, hSorted⟩, fun number hMem => ?_⟩
  cases List.mem_cons.mp hMem with
  | inl hFirst => omega
  | inr hRest => exact Nat.lt_succ_of_lt (hBelow number hRest)

theorem Drawn.nodup (h : Drawn name limit names) (hName : Function.Injective name) :
    names.Nodup := by
  obtain ⟨numbers, rfl, hSorted, -⟩ := h
  exact (hSorted.imp fun hLess => (Nat.ne_of_lt hLess).symm).map name fun _ _ hNe => hName.ne hNe

end Drawn

namespace Connection

def statementName (number : Nat) : String := "__pg_stmt_" ++ toString number

def portalName (number : Nat) : String := "__pg_portal_" ++ toString number

theorem numbered_injective (kind : String) :
    Function.Injective fun number : Nat => kind ++ toString number := by
  intro n m h
  have hDigits : Nat.toDigits 10 n = Nat.toDigits 10 m := by
    have hLists := congrArg String.toList h
    simp only [String.toList_append, Nat.toString_eq_repr, Nat.toList_repr] at hLists
    exact List.append_cancel_left hLists
  calc
    n = Nat.ofDigitChars 10 (Nat.toDigits 10 n) 0 := Nat.ofDigitChars_ten_toDigits.symm
    _ = Nat.ofDigitChars 10 (Nat.toDigits 10 m) 0 := by rw [hDigits]
    _ = m := Nat.ofDigitChars_ten_toDigits

/-- The counter is what it was. -/
def SameCount (_ : Network) (conn conn' : Connection) : Prop :=
  conn'.statementCounter = conn.statementCounter

theorem sameCount_writeAll (frame : Frame) : Leads SameCount (writeAll frame) := by
  intro net conn
  simp only [writeAll, SameCount]
  split
  · cases (conn.transport.push frame).flushWrite net <;> rfl
  · rfl

theorem sameCount_flush : Leads SameCount flush := by
  intro net conn
  simp only [flush, SameCount]
  cases conn.transport.flushWrite net with
  | error e => rfl
  | ok t =>
      dsimp only
      cases net.flushError t.history <;> rfl

theorem sameCount_bind {α β : Type} {x : Client α} {f : α → Client β} (hx : Leads SameCount x)
    (hf : ∀ a, Leads SameCount (f a)) : Leads SameCount (x >>= f) :=
  related_bind (fun hFirst hNext => hNext.trans hFirst) hx hf

theorem sameCount_ownerBind {L α β : Type} {x : Owner L α} {f : α → Owner L β}
    (hx : OwnerLeads SameCount x) (hf : ∀ a, OwnerLeads SameCount (f a)) :
    OwnerLeads SameCount (x >>= f) := by
  refine @related_bind _ (L × Connection) _ _ _ (fun net s s' => SameCount net s.2 s'.2)
    ?_ _ _ hx hf
  exact fun hFirst hNext => hNext.trans hFirst

theorem sameCount_loop {L β : Type}
    {body : L × Connection → BackendMessage → Step (L × Connection) (Except PgError β)}
    (h : ∀ s message, (stepConn (body s message)).statementCounter = s.2.statementCounter) :
    OwnerLeads SameCount (messageLoop body) := by
  intro net s
  have hStep : ∀ s entry,
      (stepConn (readStep body s entry)).statementCounter = s.2.statementCounter := by
    intro s entry
    cases entry with
    | error e => rfl
    | ok message => exact h s message
  have hDrive := drive_invariant (readStep body)
    (fun s' => s'.2.statementCounter = s.2.statementCounter)
    (fun _ s' => s'.2.statementCounter = s.2.statementCounter)
    (fun s₁ entry s₂ hSame hNext => by
      have hKept := hStep s₁ entry
      rw [hNext] at hKept
      exact hKept.trans hSame)
    (fun s₁ entry result s₂ hSame hExit => by
      have hKept := hStep s₁ entry
      rw [hExit] at hKept
      exact hKept.trans hSame)
    rfl s.2.transport.inbox
  simp only [messageLoop, SameCount]
  revert hDrive
  cases drive (readStep body) s s.2.transport.inbox with
  | done result s' rest => exact id
  | waiting s' =>
      intro hDrive
      cases s.2.transport.ending <;> exact hDrive

theorem sameCount_parts : Parts (Leads SameCount) (OwnerLeads SameCount) where
  pure _ := fun _ _ => rfl
  fail _ := fun _ _ => rfl
  bind := sameCount_bind
  attempt := by
    intro α x hx net conn
    rw [snd_attempt]
    exact hx net conn
  get _ hk := fun net conn => hk conn net conn
  types hk := fun net conn => hk net.typeFromOid net conn
  modify _ hCounter := fun _ conn => hCounter conn
  write message := by
    intro net conn
    rw [encodeAndWrite_apply]
    cases net.encode message with
    | error e => rfl
    | ok bytes => exact sameCount_writeAll _ net conn
  flush := sameCount_flush
  shutdown := by
    intro net conn
    obtain ⟨t, hState, -⟩ := shutdown_frame net conn
    rw [hState]
    rfl
  owned _ hCounter hx := fun net conn => (hCounter _ _).trans (hx net (_, conn))
  ownerPure _ := fun _ _ => rfl
  ownerFail _ := fun _ _ => rfl
  ownerWait := fun _ _ => rfl
  ownerBind := sameCount_ownerBind
  ownerAttempt := by
    intro L α x hx net s
    rw [snd_attempt]
    exact hx net s
  ownerGet _ hk := fun net s => hk s net s
  ownerModify _ hCounter := fun _ s => hCounter s
  onSnd hx := fun net s => hx net s.2
  withExtra hx := fun net s => hx net (_, s.2)
  loop hBody := sameCount_loop hBody.2
  fueled hx _ := fun net s => hx _ net s

theorem sameCount_within : Within SameCount where
  trans h h' := h'.trans h
  parts := sameCount_parts
  drop net handle conn := by
    cases handle with
    | none | cursor cursor => rfl
    | rowStream stream =>
        rw [Handle.drop, RowStream.drop_eq]
        rfl
    | cursorStream stream =>
        rw [Handle.drop, CursorStream.drop_eq]
        rfl
    | copyIn copy =>
        rw [Handle.drop, CopyIn.drop_eq]
        split <;> rfl
    | copyOut copy =>
        rw [Handle.drop, CopyOut.drop_eq]
        split <;> rfl

theorem sameCount_get {α : Type} {k : Connection → Client α}
    (h : ∀ conn, Leads SameCount (k conn)) : Leads SameCount (Async.get >>= k) :=
  fun net conn => h conn net conn

theorem sameCount_waitForNotification (timeout : Option Nat) :
    Leads SameCount (waitForNotification timeout) := by
  have hBlocking : Leads SameCount readNextNotificationBlocking := by
    refine sameCount_get fun conn => sameCount_bind ?_ fun _ => ?_
    · by_cases hBusy : (!conn.isIdle) = true
      · rw [failIf_pos hBusy]
        exact sameCount_parts.fail _
      · rw [failIf_neg hBusy]
        exact sameCount_parts.pure ()
    · apply sameCount_parts.withLocal
      apply sameCount_loop
      intro s message
      cases message with
      | noticeResponse body =>
          rw [notificationBody_noticeResponse]
          cases PgServerError.fromBody body <;> rfl
      | parameterStatus body =>
          rw [notificationBody_parameterStatus]
          cases body.name with
          | none => rfl
          | some name => cases body.value <;> rfl
      | _ => rfl
  refine sameCount_get fun conn => ?_
  cases conn.notificationQueue with
  | cons notification queue => exact sameCount_bind (fun _ _ => rfl) fun _ _ _ => rfl
  | nil =>
      match timeout with
      | some 0 => exact fun _ _ => rfl
      | none => exact sameCount_bind hBlocking fun _ _ _ => rfl
      | some (_ + 1) =>
          intro net conn
          show SameCount net conn (beforeDeadline readNextNotificationBlocking net conn).2
          rw [snd_beforeDeadline]
          exact hBlocking net conn

/-- A reconnect works on another connection and takes over all but the counter of it. -/
theorem sameCount_reconnect (rebuild : Bool) (fresh : Network)
    (handshake : Except PgError (Transport × ServerParams)) :
    Leads SameCount (reconnect rebuild fresh handshake) := by
  refine sameCount_get fun conn => ?_
  refine sameCount_bind (sameCount_parts.attempt sameCount_parts.shutdown) fun _ => ?_
  refine sameCount_bind (sameCount_parts.lift _) fun newConn => ?_
  refine sameCount_bind (fun _ _ => rfl) fun newConn => ?_
  exact sameCount_bind (fun _ _ => rfl) fun newConn => fun _ _ => rfl

/-- What a call has returned, where it has. -/
def returned {α : Type} : Outcome PgError α → List α
  | .ok a => [a]
  | .err _ | .pending => []

/-- `prepare` as far as the name of its statement. -/
def drawStatement : Client String := do
  transition .activeExtendedQuery
  nextStatementName

/-- `query_cursor` as far as the name of its portal, which comes last. -/
def drawPortal (params : List ToSql) : Client ((Bool × List (Option Bytes)) × String) := do
  let before ← beforePortal params
  let name ← nextPortalName
  return (before, name)

end Connection

/-- A connection in a run, with the names that it has drawn, the statements that it has handed
out and the names of the cursors that it has handed out, each with the last one first. -/
structure Naming where
  world : World
  statements : List String
  portals : List String
  prepared : List PreparedStatement
  opened : List String

namespace Naming

/-- A connection that has just been made. -/
def start (net : Network) (t : Transport) (serverParams : ServerParams) : Naming where
  world := ⟨net, ⟨.none, { Connection.new with transport := t, serverParams }⟩⟩
  statements := []
  portals := []
  prepared := []
  opened := []

def cursorNames (handle : Handle) : List String :=
  match handle with
  | .cursor cursor => [cursor.portalName]
  | .cursorStream stream => [stream.portalName]
  | _ => []

/-- After `prepare`, with the name that it has drawn and the statement that it has handed out. -/
def withStatement (n : Naming) (w' : World) (sql : String) : Naming :=
  { n with
    world := w'
    statements := returned (drawStatement n.world.net n.world.conn).1 ++ n.statements
    prepared := returned (prepare sql n.world.net n.world.conn).1 ++ n.prepared }

def withPortal (n : Naming) (w' : World) (params : List ToSql) : Naming :=
  { n with
    world := w'
    portals := (returned (drawPortal params n.world.net n.world.conn).1).map Prod.snd ++ n.portals
    opened := cursorNames w'.session.handle ++ n.opened }

def after (n : Naming) (w' : World) : Action → Naming
  | .call (.operation (.prepare sql)) => n.withStatement w' sql
  | .call (.opening (.queryCursor _ params _)) => n.withPortal w' params
  | .call (.opening (.queryCursorStream _ params _)) => n.withPortal w' params
  | _ => { n with world := w' }

inductive Reaches (first : Naming) : Naming → Prop where
  | start : Reaches first first
  | step {n : Naming} {action : Action} {outcome : Outcome PgError Unit} {w' : World}
      (hReach : Reaches first n) (hRun : action.run n.world = some (outcome, w')) :
      Reaches first (n.after w' action)

/-- How many names have been drawn in all. -/
def drawn (n : Naming) : Nat := n.statements.length + n.portals.length

/-- What is kept from action to action, up to the wrap of the counter: a statement has the
number of the draws with its own among them, a portal that of the draws before it. -/
structure Kept (n : Naming) : Prop where
  counter : n.world.conn.statementCounter.toNat = n.drawn
  statements : Drawn statementName (n.drawn + 1) n.statements
  portals : Drawn portalName n.drawn n.portals
  prepared : (n.prepared.map (·.name)).Sublist n.statements
  opened : n.opened.Sublist n.portals

end Naming

namespace Connection

variable {net : Network} {conn conn' : Connection}

theorem transition_cases (state : ConnectionState) (net : Network) (conn : Connection) :
    transition state net conn = (.ok (), conn.setState state) ∨
      ∃ e, transition state net conn = (.err e, conn) := by
  simp only [transition]
  split
  · exact .inl rfl
  · exact .inr ⟨_, rfl⟩

/-- No statement is named, or the one that is has the number of the counter that it leaves. -/
theorem drawStatement_cases (net : Network) (conn : Connection) :
    returned (drawStatement net conn).1 = [] ∧
        (drawStatement net conn).2.statementCounter = conn.statementCounter ∨
      returned (drawStatement net conn).1 = [statementName (conn.statementCounter + 1).toNat] ∧
        (drawStatement net conn).2.statementCounter = conn.statementCounter + 1 := by
  rw [drawStatement, bind_apply]
  obtain hPermits | ⟨e, hRefused⟩ := transition_cases .activeExtendedQuery net conn
  · rw [hPermits]
    exact .inr ⟨rfl, rfl⟩
  · rw [hRefused]
    exact .inl ⟨rfl, rfl⟩

/-- A portal has the number of the counter that it finds. -/
theorem drawPortal_cases (params : List ToSql) (net : Network) (conn : Connection) :
    returned (drawPortal params net conn).1 = [] ∧
        (drawPortal params net conn).2.statementCounter = conn.statementCounter ∨
      (returned (drawPortal params net conn).1).map Prod.snd =
          [portalName conn.statementCounter.toNat] ∧
        (drawPortal params net conn).2.statementCounter = conn.statementCounter + 1 := by
  have hSame := sameCount_parts.beforePortal params net conn
  rw [drawPortal, bind_apply]
  revert hSame
  match beforePortal params net conn with
  | (.err e, conn') => exact fun hSame => .inl ⟨rfl, hSame⟩
  | (.pending, conn') => exact fun hSame => .inl ⟨rfl, hSame⟩
  | (.ok before, conn') =>
      intro hSame
      have hCounter : conn'.statementCounter = conn.statementCounter := hSame
      refine .inr ⟨?_, ?_⟩
      · change [portalName conn'.statementCounter.toNat] = _
        rw [hCounter]
      · change conn'.statementCounter + 1 = _
        rw [hCounter]

theorem prepareAs_name (net : Network) (sql name : String) :
    Triple net (fun _ => True) (prepareAs sql name) (fun stmt _ => stmt.name = name)
      fun _ _ => True := by
  refine Triple.bind_last fun _ => Triple.bind_last fun _ => Triple.withLocal ?_
  refine Triple.bind_last fun ending => ?_
  cases ending with
  | ready => exact Triple.bind_last fun _ => Triple.pure fun _ _ => rfl
  | serverError body => exact Triple.bind_last fun _ => Triple.fail fun _ _ => trivial

theorem openPortalAs_name (net : Network) (sql : String) (values : List (Option Bytes))
    (fetchSize : Int32) (owns : Bool) (name : String) :
    Triple net (fun _ => True) (openPortalAs sql values fetchSize owns name)
      (fun cursor _ => cursor.portalName = name) fun _ _ => True := by
  refine Triple.bind_last fun _ => Triple.withLocal ?_
  refine Triple.bind_last fun ending => ?_
  cases ending with
  | ready => exact Triple.bind_last fun _ => Triple.pure fun _ _ => rfl
  | serverError body => exact Triple.bind_last fun _ => Triple.fail fun _ _ => trivial

/-- A call that draws a name first, and hands out nothing under another name. -/
theorem draws_of {α β : Type} {draw : Client β} {rest : β → Client α} {drawn : β → String}
    {names : α → List String} (hSame : ∀ b, Leads SameCount (rest b))
    (hNames : ∀ b, Triple net (fun _ => True) (rest b) (fun a _ => names a = [drawn b])
      fun _ _ => True) (conn : Connection) :
    ((draw >>= rest) net conn).2.statementCounter = (draw net conn).2.statementCounter ∧
      ((returned ((draw >>= rest) net conn).1).flatMap names).Sublist
        ((returned (draw net conn).1).map drawn) := by
  rw [bind_apply]
  match draw net conn with
  | (.err e, conn') => exact ⟨rfl, .slnil⟩
  | (.pending, conn') => exact ⟨rfl, .slnil⟩
  | (.ok b, conn') =>
      refine ⟨hSame b net conn', ?_⟩
      have hEnd := hNames b conn' trivial
      rw [andThen_ok]
      revert hEnd
      match rest b net conn' with
      | (.ok a, conn'') =>
          intro hEnd
          have hName : names a = [drawn b] := hEnd
          simp [returned, hName]
      | (.err e, conn'') => exact fun _ => List.nil_sublist _
      | (.pending, conn'') => exact fun _ => List.nil_sublist _

theorem prepare_draws (sql : String) (net : Network) (conn : Connection) :
    (prepare sql net conn).2.statementCounter = (drawStatement net conn).2.statementCounter ∧
      ((returned (prepare sql net conn).1).map (·.name)).Sublist
        (returned (drawStatement net conn).1) := by
  have hEq : prepare sql = drawStatement >>= prepareAs sql := by
    rw [prepare_eq, drawStatement, bind_assoc]
  have hDraws := @draws_of net _ _ drawStatement (prepareAs sql) id (fun stmt => [stmt.name])
    (fun name => sameCount_parts.prepareAs sql name)
    (fun name => (prepareAs_name net sql name).mono (fun _ h => h)
      (fun _ _ hName => congrArg (fun name => [name]) hName) fun _ _ h => h) conn
  rwa [← hEq, List.map_id, ← List.map_eq_flatMap] at hDraws

/-- A cursor, as whatever it is handed out. -/
theorem cursor_draws {α : Type} (sql : String) (params : List ToSql) (fetchSize : Int32)
    {wrap : Cursor → α} {names : α → List String}
    (hWrap : ∀ cursor, names (wrap cursor) = [cursor.portalName]) (net : Network)
    (conn : Connection) :
    ((queryCursor sql params fetchSize >>= fun cursor => pure (wrap cursor)) net
        conn).2.statementCounter = (drawPortal params net conn).2.statementCounter ∧
      ((returned ((queryCursor sql params fetchSize >>= fun cursor => pure (wrap cursor)) net
        conn).1).flatMap names).Sublist
          ((returned (drawPortal params net conn).1).map Prod.snd) := by
  have hEq : (queryCursor sql params fetchSize >>= fun cursor => pure (wrap cursor)) =
      drawPortal params >>= fun ((owns, values), name) =>
        openPortalAs sql values fetchSize owns name >>= fun cursor => pure (wrap cursor) := by
    rw [queryCursor_eq, drawPortal]
    simp only [bind_assoc, pure_bind]
  rw [hEq]
  apply draws_of
  · exact fun ((owns, values), name) =>
      sameCount_parts.map wrap (sameCount_parts.openPortalAs sql values fetchSize owns name)
  · intro ((owns, values), name)
    refine Triple.bind (openPortalAs_name net sql values fetchSize owns name) fun cursor => ?_
    apply Triple.pure
    rintro _ rfl
    exact hWrap cursor

end Connection

namespace Naming

theorem kept_start (net : Network) (t : Transport) (serverParams : ServerParams) :
    (start net t serverParams).Kept where
  counter := rfl
  statements := drawn_nil
  portals := drawn_nil
  prepared := .slnil
  opened := .slnil

section Steps

variable {n : Naming} {w' : World}

theorem Kept.moved (h : n.Kept)
    (hSame : w'.conn.statementCounter = n.world.conn.statementCounter) :
    ({ n with world := w' } : Naming).Kept where
  counter := (congrArg UInt32.toNat hSame).trans h.counter
  statements := h.statements
  portals := h.portals
  prepared := h.prepared
  opened := h.opened

/-- The counter goes up by one as long as it does not wrap. -/
theorem Kept.counted (h : n.Kept) (hFew : n.drawn + 1 < 2 ^ 32) :
    (n.world.conn.statementCounter + 1).toNat = n.drawn + 1 := by
  rw [UInt32.toNat_add, h.counter]
  exact Nat.mod_eq_of_lt hFew

theorem Kept.withStatement (h : n.Kept) (sql : String)
    (hCounter : w'.conn.statementCounter =
      (prepare sql n.world.net n.world.conn).2.statementCounter)
    (hFew : (n.withStatement w' sql).drawn < 2 ^ 32) : (n.withStatement w' sql).Kept := by
  obtain ⟨hSame, hNames⟩ := prepare_draws sql n.world.net n.world.conn
  rw [hSame] at hCounter
  have hPrepared := hNames.append h.prepared
  rw [← List.map_append] at hPrepared
  obtain ⟨hNone, hKept⟩ | ⟨hOne, hUp⟩ := drawStatement_cases n.world.net n.world.conn
  · have hCount : (n.withStatement w' sql).drawn = n.drawn := by
      simp [Naming.withStatement, drawn, hNone]
    refine ⟨?_, ?_, ?_, hPrepared, h.opened⟩
    · rw [hCount, ← h.counter]
      exact congrArg UInt32.toNat (hCounter.trans hKept)
    · rw [hCount]
      simpa [Naming.withStatement, hNone] using h.statements
    · rw [hCount]
      exact h.portals
  · have hCount : (n.withStatement w' sql).drawn = n.drawn + 1 := by
      simp only [Naming.withStatement, drawn, hOne, List.singleton_append, List.length_cons]
      omega
    rw [hCount] at hFew
    have hNext := h.counted hFew
    refine ⟨?_, ?_, ?_, hPrepared, h.opened⟩
    · rw [hCount, ← hNext]
      exact congrArg UInt32.toNat (hCounter.trans hUp)
    · rw [hCount]
      simp only [Naming.withStatement, hOne, hNext, List.singleton_append]
      exact h.statements.cons
    · rw [hCount]
      exact h.portals.mono (Nat.le_succ _)

theorem Kept.withPortal (h : n.Kept) (params : List ToSql)
    (hCounter : w'.conn.statementCounter =
      (drawPortal params n.world.net n.world.conn).2.statementCounter)
    (hNames : (cursorNames w'.session.handle).Sublist
      ((returned (drawPortal params n.world.net n.world.conn).1).map Prod.snd))
    (hFew : (n.withPortal w' params).drawn < 2 ^ 32) : (n.withPortal w' params).Kept := by
  have hOpened := hNames.append h.opened
  obtain ⟨hNone, hKept⟩ | ⟨hOne, hUp⟩ := drawPortal_cases params n.world.net n.world.conn
  · have hCount : (n.withPortal w' params).drawn = n.drawn := by
      simp [Naming.withPortal, drawn, hNone]
    refine ⟨?_, ?_, ?_, h.prepared, hOpened⟩
    · rw [hCount, ← h.counter]
      exact congrArg UInt32.toNat (hCounter.trans hKept)
    · rw [hCount]
      exact h.statements
    · rw [hCount]
      simpa [Naming.withPortal, hNone] using h.portals
  · have hCount : (n.withPortal w' params).drawn = n.drawn + 1 := by
      simp only [Naming.withPortal, drawn, hOne, List.singleton_append, List.length_cons]
      omega
    rw [hCount] at hFew
    refine ⟨?_, ?_, ?_, h.prepared, hOpened⟩
    · rw [hCount, ← h.counted hFew]
      exact congrArg UInt32.toNat (hCounter.trans hUp)
    · rw [hCount]
      exact h.statements.mono (Nat.le_succ _)
    · rw [hCount]
      simp only [Naming.withPortal, hOne, h.counter, List.singleton_append]
      exact h.portals.cons

/-- What a call that opens a cursor leaves. -/
theorem opened_cursor {opening : Opening} {w : World} {outcome : Outcome PgError Unit}
    (hRun : Action.run w (.call (.opening opening)) = some (outcome, w')) :
    w'.conn = (opening.run w.net w.conn).2 ∧
      cursorNames w'.session.handle =
        (returned (opening.run w.net w.conn).1).flatMap cursorNames := by
  obtain ⟨net, handle, conn⟩ := w
  simp only [Action.run, Session.step] at hRun
  change w'.conn = (opening.run net conn).2 ∧ cursorNames w'.session.handle =
    (returned (opening.run net conn).1).flatMap cursorNames
  cases handle with
  | none =>
      revert hRun
      cases opening.run net conn with
      | mk result conn' =>
          cases result with
          | ok handle =>
              intro hRun
              cases hRun
              exact ⟨rfl, (List.flatMap_singleton cursorNames handle).symm⟩
          | err e =>
              intro hRun
              cases hRun
              exact ⟨rfl, rfl⟩
          | pending =>
              intro hRun
              cases hRun
              exact ⟨rfl, rfl⟩
  | _ => cases hRun

theorem reconnected_counter {w : World} {rebuild : Bool} {fresh : Network}
    {handshake : Except PgError ServerParams} {outcome : Outcome PgError Unit}
    (hRun : Action.run w (.reconnect rebuild fresh handshake) = some (outcome, w')) :
    w'.conn.statementCounter = w.conn.statementCounter := by
  have hSame : ∀ {outcome : Outcome PgError Unit} {w' : World},
      w.onFree (Connection.reconnect rebuild fresh
        (handshake.map fun params => (.new, params))) = some (outcome, w') →
      w'.conn.statementCounter = w.conn.statementCounter :=
    fun hFree => Leads.onFree (sameCount_reconnect rebuild fresh _) hFree
  simp only [Action.run] at hRun
  split at hRun
  case h_1 w₁ hFree =>
      cases hRun
      exact @hSame _ w₁ hFree
  case h_2 => exact hSame hRun

theorem unnamed_counter {w : World} {action : Action} {outcome : Outcome PgError Unit}
    (hRun : action.run w = some (outcome, w')) (hName : action.isNaming = false)
    (hReconnect : action.replaces = false) :
    w'.conn.statementCounter = w.conn.statementCounter := by
  apply sameCount_within.action _ hRun _ fun timeout _ => sameCount_waitForNotification timeout
  · rintro call rfl hNaming
    have hNone : call.isNaming = false := hName
    rw [hNone] at hNaming
    cases hNaming
  · rintro rebuild fresh handshake rfl
    cases hReconnect

theorem kept_prepare (h : n.Kept) {sql : String} {outcome : Outcome PgError Unit}
    (hRun : Action.run n.world (.call (.operation (.prepare sql))) = some (outcome, w'))
    (hFew : (n.withStatement w' sql).drawn < 2 ^ 32) : (n.withStatement w' sql).Kept := by
  apply h.withStatement sql _ hFew
  revert hRun
  obtain ⟨net, handle, conn⟩ := n.world
  simp only [Action.run, Session.step]
  cases handle with
  | none =>
      intro hRun
      cases hRun
      change (((prepare sql >>= fun _ => pure ()) net conn).2).statementCounter = _
      rw [bind_apply]
      change _ = (prepare sql net conn).2.statementCounter
      rcases prepare sql net conn with ⟨_ | _ | _, _⟩ <;> rfl
  | _ =>
      intro hRun
      cases hRun

/-- One action of a run in which few names are drawn. -/
theorem kept_step (h : n.Kept) {action : Action} {outcome : Outcome PgError Unit}
    (hRun : action.run n.world = some (outcome, w'))
    (hFew : (n.after w' action).drawn < 2 ^ 32) : (n.after w' action).Kept := by
  have hUnnamed := @unnamed_counter w' n.world action outcome hRun
  cases action with
  | reconnect rebuild fresh handshake => exact h.moved (reconnected_counter hRun)
  | call request =>
      cases request with
      | operation op =>
          cases op with
          | prepare sql => exact kept_prepare h hRun hFew
          | _ => exact h.moved (hUnnamed rfl rfl)
      | opening opening =>
          obtain ⟨hConn, hNames⟩ := opened_cursor hRun
          cases opening with
          | queryCursor sql params fetchSize =>
              obtain ⟨hSame, hDrawn⟩ := @cursor_draws _ sql params fetchSize Handle.cursor
                cursorNames (fun _ => rfl) n.world.net n.world.conn
              exact h.withPortal params ((congrArg (·.statementCounter) hConn).trans hSame)
                (hNames ▸ hDrawn) hFew
          | queryCursorStream sql params fetchSize =>
              obtain ⟨hSame, hDrawn⟩ := @cursor_draws _ sql params fetchSize
                (fun cursor => Handle.cursorStream (CursorStream.new cursor.portalName
                  cursor.columns cursor.fetchSize cursor.ownsTransaction))
                cursorNames (fun _ => rfl) n.world.net n.world.conn
              have hRun : Opening.run (.queryCursorStream sql params fetchSize) =
                  queryCursor sql params fetchSize >>= fun cursor =>
                    pure (Handle.cursorStream (CursorStream.new cursor.portalName
                      cursor.columns cursor.fetchSize cursor.ownsTransaction)) := by
                simp only [Opening.run, queryCursorStream, bind_assoc, pure_bind]
              rw [hRun] at hConn hNames
              exact h.withPortal params ((congrArg (·.statementCounter) hConn).trans hSame)
                (hNames ▸ hDrawn) hFew
          | _ => exact h.moved (hUnnamed rfl rfl)
      | handle call => exact h.moved (hUnnamed rfl rfl)
  | _ => exact h.moved (hUnnamed rfl rfl)

theorem drawn_le_after (n : Naming) (w' : World) (action : Action) :
    n.drawn ≤ (n.after w' action).drawn := by
  have hStatement : ∀ sql, n.drawn ≤ (n.withStatement w' sql).drawn := by
    intro sql
    simp only [Naming.withStatement, drawn, List.length_append]
    omega
  have hPortal : ∀ params, n.drawn ≤ (n.withPortal w' params).drawn := by
    intro params
    simp only [Naming.withPortal, drawn, List.length_append]
    omega
  cases action with
  | call request =>
      cases request with
      | operation op =>
          cases op with
          | prepare sql => exact hStatement sql
          | _ => exact Nat.le_refl _
      | opening opening =>
          cases opening with
          | queryCursor sql params fetchSize => exact hPortal params
          | queryCursorStream sql params fetchSize => exact hPortal params
          | _ => exact Nat.le_refl _
      | handle call => exact Nat.le_refl _
  | _ => exact Nat.le_refl _

theorem kept_of_reaches {first : Naming} (hFirst : first.Kept) (hReach : Reaches first n)
    (hFew : n.drawn < 2 ^ 32) : n.Kept := by
  induction hReach with
  | start => exact hFirst
  | step _ hRun ih =>
      exact kept_step (ih (Nat.lt_of_le_of_lt (drawn_le_after _ _ _) hFew)) hRun hFew

end Steps

/-- No two statements and no two portals that a connection names in a run of fewer than 2³²
names have one name, before a reconnect or after it, and what it hands out has these names. -/
theorem names_fresh (net : Network) (t : Transport) (serverParams : ServerParams) (n : Naming)
    (hReach : Reaches (start net t serverParams) n) (hFew : n.drawn < 2 ^ 32) :
    n.statements.Nodup ∧ n.portals.Nodup ∧ (n.prepared.map (·.name)).Nodup ∧ n.opened.Nodup ∧
      (n.prepared.map (·.name)).Sublist n.statements ∧ n.opened.Sublist n.portals := by
  have hKept := kept_of_reaches (kept_start net t serverParams) hReach hFew
  have hStatements := hKept.statements.nodup (numbered_injective _)
  have hPortals := hKept.portals.nodup (numbered_injective _)
  exact ⟨hStatements, hPortals, hStatements.sublist hKept.prepared,
    hPortals.sublist hKept.opened, hKept.prepared, hKept.opened⟩

/-- A server that is ready again after whatever it is asked. -/
def readyNetwork : Network where
  frontend := fun _ => .ok []
  frontendTotal := fun _ => []
  typeFromOid := fun _ => none
  answer := fun _ message =>
    match message with
    | .query _ => ⟨[.ok (.commandComplete (some "BEGIN")), .ok (.readyForQuery 73)], none⟩
    | .sync => ⟨[.ok (.readyForQuery 73)], none⟩
    | _ => ⟨[], none⟩
  writeError := fun _ => none
  flushError := fun _ => none

/-- Actions one after another, as far as they can be done. -/
def doAll (n : Naming) : List Action → Naming
  | [] => n
  | action :: actions =>
      match action.run n.world with
      | some (_, w') => (n.after w' action).doAll actions
      | none => n

theorem reaches_doAll {first n : Naming} (hReach : Reaches first n) (actions : List Action) :
    Reaches first (n.doAll actions) := by
  induction actions generalizing n with
  | nil => exact hReach
  | cons action actions ih =>
      rw [doAll]
      cases hRun : action.run n.world with
      | none => exact hReach
      | some result => exact ih (.step hReach hRun)

/-- A statement, a cursor that is dropped, and another statement after a reconnect. -/
def busyRun : Naming :=
  (start readyNetwork .new {}).doAll
    [.call (.operation (.prepare "SELECT 1")),
      .call (.opening (.queryCursor "SELECT 2" [] 10)),
      .call (.handle .release),
      .reconnect false readyNetwork (.ok {}),
      .call (.operation (.prepare "SELECT 3"))]

theorem names_fresh_busyRun :
    busyRun.prepared.map (·.name) = ["__pg_stmt_3", "__pg_stmt_1"] ∧
      busyRun.opened = ["__pg_portal_1"] ∧ busyRun.statements.Nodup := by
  have hFresh := names_fresh readyNetwork .new {} busyRun (reaches_doAll .start _)
    (by decide +kernel)
  exact ⟨by decide +kernel, by decide +kernel, hFresh.1⟩

end Naming
end PgClient
