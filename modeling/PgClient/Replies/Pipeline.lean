import Mathlib.Data.List.Forall2
import PgClient.Query.Pipeline
import PgClient.Replies.Extended
import PgClient.Protocol.TableServer

/-!
Pipelines against the same operations run one by one: the accumulators that the
operations share, what they hold when an operation's reply begins, and when that shows.
-/

namespace PgClient

open Drive Async Connection

/-- An operation with the reply that the server gives to it. -/
structure OpAnswer where
  op : PipelineOp
  reply : OpReply

/-- The accumulators when the reply to an operation begins. -/
structure Carry where
  columns : Option (List FieldDescription) := none
  rows : List Row := []

namespace PipelineOp

def sql : PipelineOp → String
  | .query sql _ | .execute sql _ => sql

def params : PipelineOp → List (Option Bytes)
  | .query _ params | .execute _ params => params

def isQuery : PipelineOp → Bool
  | .query _ _ => true
  | .execute _ _ => false

/-- The result of an operation, and what it leaves to the next one. -/
def absorb (carry : Carry) : PipelineOp → OpReply → PipelineResult × Carry
  | .query _ _, .rows fields data tag =>
      (.query { rows := carry.rows ++ (OpReply.rows fields data tag).result.rows
                commandTag := .ofBody tag
                columns := fields }, {})
  | .query _ _, .command tag | .query _ _, .copyOut _ _ tag =>
      (.query { rows := carry.rows, commandTag := .ofBody tag
                columns := carry.columns.getD [] }, {})
  | .query _ _, reply => (.query reply.result, carry)
  | .execute _ _, .rows fields data tag =>
      (.execute (.ofBody tag),
        { columns := some fields, rows := carry.rows ++
          (OpReply.rows fields data tag).result.rows })
  | .execute _ _, reply => (.execute reply.result.commandTag, carry)

end PipelineOp

namespace Pipeline

/-- The state of the read loop between two replies. -/
def between (carry : Carry) (rest : List PipelineOp) (results : List PipelineResult) : ReadState :=
  { rest, results, currentColumns := carry.columns, currentRows := carry.rows }

theorem detached_read : Detached readBody := by
  apply detached_asyncFirst
  intro read conn message
  cases message with
  | rowDescription fields => cases fields <;> rfl
  | dataRow values => cases values <;> rfl
  | _ => rfl

theorem drive_read_rows (fields : List Field) (rest : List PipelineOp)
    (results : List PipelineResult) (rows : List Row) (data : List (List (Option Bytes))) :
    drive (localStep readBody) (between { columns := some fields, rows } rest results)
        (data.map fun values => .dataRow (.ok values)) =
      .waiting (between { columns := some fields
                          rows := rows ++ data.map fun values => { columns := fields, values } }
        rest results) := by
  have hState := drive_collects (localStep readBody)
    (fun values => .dataRow (.ok values))
    (fun rows => between { columns := some fields, rows } rest results)
    (fun values => { columns := fields, values }) (fun _ _ => rfl)
  exact hState rows data

theorem drive_read_chunks (state : ReadState) (chunks : List Bytes) :
    drive (localStep readBody) state (chunks.map .copyData) = .waiting state :=
  drive_ignores_map _ _ (fun _ => rfl) chunks

/-- The reply to one operation. -/
theorem drive_read (carry : Carry) (op : PipelineOp) (rest : List PipelineOp)
    (results : List PipelineResult) (reply : OpReply) (hEnds : reply.isCopyIn = false) :
    drive (localStep readBody) (between carry (op :: rest) results) reply.messages =
      .waiting (between (op.absorb carry reply).2 rest
        (results ++ [(op.absorb carry reply).1])) := by
  cases reply with
  | rows fields data tag =>
      have hRows := drive_read_rows fields (op :: rest) results carry.rows data
      cases op with
      | query sql params => exact drive_append_waiting _ hRows [.commandComplete tag]
      | execute sql params => exact drive_append_waiting _ hRows [.commandComplete tag]
  | command tag => cases op <;> rfl
  | empty => cases op <;> rfl
  | copyOut body chunks tag =>
      have hChunks := drive_read_chunks (between carry (op :: rest) results) chunks
      cases op with
      | query sql params => exact drive_append_waiting _ hChunks [.copyDone, .commandComplete tag]
      | execute sql params => exact drive_append_waiting _ hChunks [.copyDone, .commandComplete tag]
  | copyIn body => cases hEnds

/-- The server's whole answer: the replies in order and the `ReadyForQuery` for the Sync,
which does not come while the server waits for the data of a COPY. -/
def wholeReply (status : UInt8) : List OpReply → List BackendMessage
  | [] => [.readyForQuery status]
  | reply :: replies => reply.messages ++ if reply.isCopyIn then [] else wholeReply status replies

/-- The results of operations and their replies, one after the other. -/
def absorbAll : Carry → List OpAnswer → List PipelineResult
  | _, [] => []
  | carry, ⟨op, reply⟩ :: rest =>
      (op.absorb carry reply).1 :: absorbAll (op.absorb carry reply).2 rest

theorem drive_wholeReply (status : UInt8) (carry : Carry) (answered : List OpAnswer)
    (results : List PipelineResult) (hEnds : ∀ answer ∈ answered, answer.reply.isCopyIn = false) :
    ∃ carry', drive (localStep readBody) (between carry (answered.map OpAnswer.op) results)
        (wholeReply status (answered.map OpAnswer.reply)) =
      .done (.ok .ready) (between carry' [] (results ++ absorbAll carry answered)) [] := by
  induction answered generalizing carry results with
  | nil => exact ⟨carry, by simp [wholeReply, absorbAll, drive_cons]; rfl⟩
  | cons answer answered ih =>
      obtain ⟨op, reply⟩ := answer
      have hReply : reply.isCopyIn = false := hEnds ⟨op, reply⟩ List.mem_cons_self
      obtain ⟨carry', hRest⟩ := ih (op.absorb carry reply).2
        (results ++ [(op.absorb carry reply).1])
        fun answer hMem => hEnds answer (List.mem_cons_of_mem _ hMem)
      refine ⟨carry', ?_⟩
      rw [List.map_cons, List.map_cons, wholeReply, hReply, if_neg (by simp),
        drive_append_waiting _ (drive_read carry op _ results reply hReply), hRest]
      simp [absorbAll]

/-- A COPY that the server waits for keeps the loop waiting. -/
theorem drive_wholeReply_copyIn (status : UInt8) (carry : Carry)
    (answered : List OpAnswer) (results : List PipelineResult)
    (hWaits : ∃ answer ∈ answered, answer.reply.isCopyIn) :
    ∃ state, drive (localStep readBody) (between carry (answered.map OpAnswer.op) results)
      (wholeReply status (answered.map OpAnswer.reply)) = .waiting state := by
  induction answered generalizing carry results with
  | nil => simp at hWaits
  | cons answer answered ih =>
      obtain ⟨op, reply⟩ := answer
      rw [List.map_cons, List.map_cons, wholeReply]
      cases hReply : reply.isCopyIn with
      | true =>
          cases reply with
          | copyIn body => exact ⟨_, rfl⟩
          | _ => cases hReply
      | false =>
          rw [if_neg (by simp), drive_append_waiting _ (drive_read carry op _ results reply hReply)]
          apply ih
          obtain ⟨answer, hMem, hCopy⟩ := hWaits
          cases List.mem_cons.mp hMem with
          | inl hHead =>
              subst hHead
              rw [hReply] at hCopy
              cases hCopy
          | inr hTail => exact ⟨answer, hTail, hCopy⟩

section Finish

variable {net : Network} {conn : Connection} {pipeline : Pipeline}
  {answered : List OpAnswer} {status : UInt8}

/-- The request of a pipeline. -/
def batch (pipeline : Pipeline) : List FrontendMessage :=
  pipeline.ops.flatMap PipelineOp.messages ++ [.sync]

/-- `finish` once its request is sent. -/
theorem finish_eq (hIdle : conn.state = .idle) {reply : List BackendMessage}
    (hAnswered : Answered net conn pipeline.batch reply) :
    pipeline.finish net conn = readResults pipeline.ops net
      (afterSend net conn pipeline.batch .activeExtendedQuery) := by
  rw [finish, bind_of_ok (transition_of_idle hIdle rfl)]
  exact bind_of_ok (hAnswered.sends _)

theorem readResults_of_answered (ops : List PipelineOp)
    (hOps : ops = answered.map OpAnswer.op)
    (hReply : Interleaves conn.transport.inbox (wholeReply status (answered.map OpAnswer.reply)))
    (hEnds : ∀ answer ∈ answered, answer.reply.isCopyIn = false) :
    (readResults ops net conn).1 = .ok (absorbAll {} answered) := by
  subst hOps
  obtain ⟨carry, hDrive⟩ := drive_wholeReply status {} answered [] hEnds
  obtain ⟨conn', hLoop, _⟩ := detached_read.messageLoop_done net
    ({ rest := answered.map OpAnswer.op }, conn) hReply hDrive
  rw [readResults, withLocal_apply, bind_of_ok hLoop]
  rfl

theorem readResults_of_copyIn (ops : List PipelineOp) (hOps : ops = answered.map OpAnswer.op)
    (hReply : Interleaves conn.transport.inbox (wholeReply status (answered.map OpAnswer.reply)))
    (hOpen : conn.transport.ending = none) (hWaits : ∃ answer ∈ answered, answer.reply.isCopyIn) :
    (readResults ops net conn).1 = .pending := by
  subst hOps
  obtain ⟨state, hDrive⟩ := drive_wholeReply_copyIn status {} answered [] hWaits
  have hLoop := detached_read.messageLoop_waiting net
    ({ rest := answered.map OpAnswer.op }, conn) hReply hDrive hOpen
  rw [readResults, withLocal_apply, bind_pending _ hLoop]

end Finish

end Pipeline

section Accumulators

/-- A Query that ends with a `CommandComplete` takes what is in the accumulators. -/
def OpAnswer.collects (answer : OpAnswer) : Bool :=
  answer.op.isQuery && answer.reply.completes

/-- The result that the server has sent for an operation. -/
def Faithful (answer : OpAnswer) (result : PipelineResult) : Prop :=
  match answer.op with
  | .query _ _ => result = .query answer.reply.result
  | .execute _ _ => result = .execute answer.reply.result.commandTag

/-- What is in the accumulators does not show in the results of operations still to come. -/
def Carry.Hidden (carry : Carry) (answered : List OpAnswer) : Prop :=
  ∀ between last after, answered = between ++ last :: after → last.collects →
    (∀ answer ∈ between, answer.collects = false) →
      carry.rows = [] ∧ (last.reply.fields = none →
        (∀ answer ∈ between, answer.reply.fields = none) →
        carry.columns.getD [] = [])

/-- What the reply to one operation leaves in the accumulators if nothing takes it. -/
def OpAnswer.own (answer : OpAnswer) : Carry :=
  { columns := answer.reply.fields, rows := answer.reply.result.rows }

/-- Between an Execute and the next Query that collects, the Execute has returned no row;
and if neither that Query nor an operation between the two has a description of its own,
then the Execute has none with columns. -/
def Undisturbed (answered : List OpAnswer) : Prop :=
  ∀ before first between last after, answered = before ++ first :: (between ++ last :: after) →
    first.op.isQuery = false → last.collects → (∀ answer ∈ between, answer.collects = false) →
      first.reply.result.rows = [] ∧
        (last.reply.fields = none → (∀ answer ∈ between, answer.reply.fields = none) →
          first.reply.fields.getD [] = [])

theorem undisturbed_cons (answer : OpAnswer) (answered : List OpAnswer) :
    Undisturbed (answer :: answered) ↔
      (answer.op.isQuery = false → answer.own.Hidden answered) ∧ Undisturbed answered := by
  constructor
  · intro h
    refine ⟨?_, ?_⟩
    · intro hExecute between last after hSplit
      exact h [] answer between last after (by rw [hSplit]; rfl) hExecute
    · intro before first between last after hSplit
      exact h (answer :: before) first between last after (by rw [hSplit]; rfl)
  · intro h before first between last after hSplit hExecute
    cases before with
    | nil =>
        obtain ⟨rfl, rfl⟩ := List.cons.inj hSplit
        exact h.1 hExecute between last after rfl
    | cons answer' before =>
        obtain ⟨rfl, rfl⟩ := List.cons.inj hSplit
        exact h.2 before first between last after rfl hExecute

theorem hidden_empty (answered : List OpAnswer) : Carry.Hidden {} answered :=
  fun _ _ _ _ _ _ => ⟨rfl, fun _ _ => rfl⟩

/-- An operation that collects stands in front of all that comes later. -/
theorem hidden_cons_collects {carry : Carry} {answer : OpAnswer} {answered : List OpAnswer}
    (hCollects : answer.collects) :
    carry.Hidden (answer :: answered) ↔
      carry.rows = [] ∧ (answer.reply.fields = none → carry.columns.getD [] = []) := by
  constructor
  · intro h
    have hFirst := h [] answer answered rfl hCollects (by simp)
    exact ⟨hFirst.1, fun hFields => hFirst.2 hFields (by simp)⟩
  · intro h between last after hSplit _ hBetween
    cases between with
    | nil =>
        obtain ⟨rfl, rfl⟩ := List.cons.inj hSplit
        exact ⟨h.1, fun hFields _ => h.2 hFields⟩
    | cons answer' between =>
        obtain ⟨rfl, rfl⟩ := List.cons.inj hSplit
        have hNot := hBetween answer List.mem_cons_self
        rw [hCollects] at hNot
        cases hNot

/-- An operation that does not collect adds what is its own. -/
theorem hidden_cons_adds (carry : Carry) {answer : OpAnswer} (answered : List OpAnswer)
    (hCollects : answer.collects = false) :
    carry.Hidden (answer :: answered) ∧ answer.own.Hidden answered ↔
      Carry.Hidden { columns := answer.reply.fields <|> carry.columns
                     rows := carry.rows ++ answer.reply.result.rows } answered := by
  constructor
  · intro h between last after hSplit hLast hBetween
    have hCarry := h.1 (answer :: between) last after (by rw [hSplit]; rfl) hLast (by
      intro other hMem
      cases List.mem_cons.mp hMem with
      | inl hSame => rw [hSame, hCollects]
      | inr hLater => exact hBetween other hLater)
    have hOwn := h.2 between last after hSplit hLast hBetween
    refine ⟨by simpa using ⟨hCarry.1, hOwn.1⟩, fun hFields hNone => ?_⟩
    cases hAnswer : answer.reply.fields with
    | none => 
        refine hCarry.2 hFields ?_
        intro other hMem
        cases List.mem_cons.mp hMem with
        | inl hSame => rw [hSame, hAnswer]
        | inr hLater => exact hNone other hLater
    | some fields =>
        have hOwnFields := hOwn.2 hFields hNone
        simpa [OpAnswer.own, hAnswer] using hOwnFields
  · intro h
    refine ⟨?_, ?_⟩
    · intro between last after hSplit hLast hBetween
      cases between with
      | nil =>
          obtain ⟨rfl, rfl⟩ := List.cons.inj hSplit
          rw [hCollects] at hLast
          cases hLast
      | cons answer' between =>
          obtain ⟨rfl, rfl⟩ := List.cons.inj hSplit
          have hBoth := h between last after rfl hLast
            fun other hMem => hBetween other (List.mem_cons_of_mem _ hMem)
          refine ⟨(List.append_eq_nil_iff.mp hBoth.1).1, fun hFields hNone => ?_⟩
          have hColumns := hBoth.2 hFields fun other hMem => hNone other
            (List.mem_cons_of_mem _ hMem)
          simpa [hNone answer List.mem_cons_self] using hColumns
    · intro between last after hSplit hLast hBetween
      have hBoth := h between last after hSplit hLast hBetween
      refine ⟨(List.append_eq_nil_iff.mp hBoth.1).2, fun hFields hNone => ?_⟩
      have hColumns := hBoth.2 hFields hNone
      cases hAnswer : answer.reply.fields with
      | none => simp [OpAnswer.own, hAnswer]
      | some fields => simpa [OpAnswer.own, hAnswer] using hColumns

/-- What an operation leaves in the accumulators. -/
theorem absorb_snd (carry : Carry) (answer : OpAnswer) (hEnds : answer.reply.isCopyIn = false) :
    (answer.op.absorb carry answer.reply).2 =
      if answer.collects then {}
      else { columns := answer.reply.fields <|> carry.columns
             rows := carry.rows ++ answer.reply.result.rows } := by
  obtain ⟨op, reply⟩ := answer
  cases op with
  | query sql params =>
      cases reply with
      | copyIn body => cases hEnds
      | empty => simp [PipelineOp.absorb, OpAnswer.collects, OpReply.completes, PipelineOp.isQuery,
          OpReply.fields, OpReply.result]
      | _ => rfl
  | execute sql params =>
      cases reply <;> simp [PipelineOp.absorb, OpAnswer.collects, PipelineOp.isQuery,
        OpReply.fields,
        OpReply.result]

/-- The result of an operation is the server's unless what it collects shows. -/
theorem faithful_absorb_iff (carry : Carry) (answer : OpAnswer)
    (hEnds : answer.reply.isCopyIn = false) :
    Faithful answer (answer.op.absorb carry answer.reply).1 ↔
      (answer.collects →
        carry.rows = [] ∧ (answer.reply.fields = none → carry.columns.getD [] = [])) := by
  obtain ⟨op, reply⟩ := answer
  cases op with
  | query sql params =>
      cases reply with
      | copyIn body => cases hEnds
      | rows fields data tag =>
          simp [Faithful, PipelineOp.absorb, OpAnswer.collects, OpReply.completes,
            PipelineOp.isQuery, OpReply.fields, OpReply.result]
      | _ =>
          simp [Faithful, PipelineOp.absorb, OpAnswer.collects, OpReply.completes,
            PipelineOp.isQuery, OpReply.fields, OpReply.result]
  | execute sql params =>
      cases reply <;> simp [Faithful, PipelineOp.absorb, OpAnswer.collects, PipelineOp.isQuery,
        OpReply.result]

theorem absorbAll_faithful_iff (carry : Carry) (answered : List OpAnswer)
    (hEnds : ∀ answer ∈ answered, answer.reply.isCopyIn = false) :
    List.Forall₂ Faithful answered (Pipeline.absorbAll carry answered) ↔
      carry.Hidden answered ∧ Undisturbed answered := by
  induction answered generalizing carry with
  | nil =>
      constructor
      · exact fun _ => ⟨fun between last after hSplit => by simp at hSplit,
          fun before first between last after hSplit => by simp at hSplit⟩
      · exact fun _ => .nil
  | cons answer answered ih =>
      have hReply := hEnds answer List.mem_cons_self
      have hRest := ih (answer.op.absorb carry answer.reply).2
        fun other hMem => hEnds other (List.mem_cons_of_mem _ hMem)
      rw [Pipeline.absorbAll, List.forall₂_cons, faithful_absorb_iff carry answer hReply, hRest,
        undisturbed_cons, absorb_snd carry answer hReply]
      cases hCollects : answer.collects with
      | true =>
          have hQuery : answer.op.isQuery = true := by
            simp only [OpAnswer.collects, Bool.and_eq_true] at hCollects
            exact hCollects.1
          rw [hidden_cons_collects hCollects]
          simp [hQuery, hidden_empty]
      | false =>
          have hAdds := hidden_cons_adds carry answered hCollects
          have hOwn : answer.op.isQuery = true → answer.own.Hidden answered := by
            intro hQuery
            have hEmpty : answer.own = {} := by
              obtain ⟨op, reply⟩ := answer
              simp only at hQuery hReply
              simp only [OpAnswer.collects, hQuery, Bool.true_and] at hCollects
              cases reply with
              | empty => rfl
              | copyIn body => cases hReply
              | _ => cases hCollects
            rw [hEmpty]
            exact hidden_empty answered
          simp only [Bool.false_eq_true, if_false, ← hAdds, false_implies, true_and]
          constructor
          · exact fun h => ⟨h.1.1, fun _ => h.1.2, h.2⟩
          · intro h
            refine ⟨⟨h.1, ?_⟩, h.2.2⟩
            cases hQuery : answer.op.isQuery with
            | true => exact hOwn hQuery
            | false => exact h.2.1 hQuery

end Accumulators

/-- An operation run alone through `query_params`, on a connection of its own whose server
gives the same reply. -/
structure SoloRun where
  answer : OpAnswer
  net : Network
  conn : Connection
  params : List ToSql
  status : UInt8
  encodes : encodeParamsText params = .ok answer.op.params
  idle : conn.state = .idle
  answered : Answered net conn (unnamedBatch answer.op.sql answer.op.params ++ [.sync])
    (Pipeline.wholeReply status [answer.reply])

namespace SoloRun

def outcome (run : SoloRun) : Outcome PgError QueryResult :=
  (queryParams run.answer.op.sql run.params run.net run.conn).1

/-- A result of the pipeline is that of the operation alone: for a Query all of it, for an
Execute its command tag. -/
def Matches (run : SoloRun) (result : PipelineResult) : Prop :=
  match run.answer.op, result with
  | .query _ _, .query result => run.outcome = .ok result
  | .execute _ _, .execute tag => run.outcome.map QueryResult.commandTag = .ok tag
  | _, _ => False

theorem outcome_eq (run : SoloRun) (hEnds : run.answer.reply.isCopyIn = false) :
    run.outcome = .ok run.answer.reply.result := by
  have hAnswered := run.answered
  simp only [Pipeline.wholeReply, hEnds, Bool.false_eq_true, if_false] at hAnswered
  exact queryParams_of_answered run.idle run.encodes hAnswered hEnds

theorem matches_iff (run : SoloRun) (hEnds : run.answer.reply.isCopyIn = false)
    (result : PipelineResult) : run.Matches result ↔ Faithful run.answer result := by
  simp only [Matches, Faithful, run.outcome_eq hEnds]
  cases run.answer.op with
  | query sql params => cases result <;> simp [eq_comm]
  | execute sql params => cases result <;> simp [eq_comm]

theorem all_match_iff {runs : List SoloRun}
    (hEnds : ∀ run ∈ runs, run.answer.reply.isCopyIn = false) (results : List PipelineResult) :
    List.Forall₂ Matches runs results ↔ List.Forall₂ Faithful (runs.map answer) results := by
  induction runs generalizing results with
  | nil => simp
  | cons run runs ih =>
      cases results with
      | nil => simp
      | cons result results =>
          rw [List.map_cons, List.forall₂_cons, List.forall₂_cons,
            run.matches_iff (hEnds run List.mem_cons_self),
            ih fun other hMem => hEnds other (List.mem_cons_of_mem _ hMem)]

end SoloRun

namespace Pipeline

/-- On an error-free reply, `finish` returns one result for each operation, each equal to
that of the operation run alone, exactly when no statement is a COPY from the client and
nothing that an Execute has left in the accumulators is there when a Query collects
them. -/
theorem finish_matches_iff {net : Network} {conn : Connection} {pipeline : Pipeline}
    {status : UInt8} (runs : List SoloRun) (hIdle : conn.state = .idle)
    (hOps : pipeline.ops = runs.map fun run => run.answer.op)
    (hAnswered : Answered net conn pipeline.batch
      (wholeReply status (runs.map fun run => run.answer.reply))) :
    (∃ results, (pipeline.finish net conn).1 = .ok results ∧
        List.Forall₂ SoloRun.Matches runs results) ↔
      (∀ run ∈ runs, run.answer.reply.isCopyIn = false) ∧
        Undisturbed (runs.map SoloRun.answer) := by
  have hOps' : pipeline.ops = (runs.map SoloRun.answer).map OpAnswer.op := by
    rw [hOps, List.map_map]
    rfl
  have hReply : Interleaves (afterSend net conn pipeline.batch .activeExtendedQuery).transport.inbox
      (wholeReply status ((runs.map SoloRun.answer).map OpAnswer.reply)) := by
    rw [List.map_map]
    exact hAnswered.inbox _
  by_cases hEnds : ∀ run ∈ runs, run.answer.reply.isCopyIn = false
  · have hEnds' : ∀ answer ∈ runs.map SoloRun.answer, answer.reply.isCopyIn = false := by
      intro answer hMem
      obtain ⟨run, hRun, rfl⟩ := List.mem_map.mp hMem
      exact hEnds run hRun
    have hFinish : (pipeline.finish net conn).1 = .ok (absorbAll {} (runs.map SoloRun.answer)) := by
      rw [finish_eq hIdle hAnswered]
      exact readResults_of_answered _ hOps' hReply hEnds'
    have hAll := absorbAll_faithful_iff {} (runs.map SoloRun.answer) hEnds'
    rw [← SoloRun.all_match_iff hEnds] at hAll
    simp only [hFinish, Outcome.ok.injEq, exists_eq_left', hAll]
    exact ⟨fun h => ⟨hEnds, h.2⟩, fun h => ⟨hidden_empty _, h.2⟩⟩
  · have hWaits : ∃ answer ∈ runs.map SoloRun.answer, answer.reply.isCopyIn := by
      simp only [not_forall, Bool.not_eq_false] at hEnds
      obtain ⟨run, hRun, hCopy⟩ := hEnds
      exact ⟨run.answer, List.mem_map_of_mem hRun, hCopy⟩
    have hFinish : (pipeline.finish net conn).1 = .pending := by
      rw [finish_eq hIdle hAnswered]
      exact readResults_of_copyIn _ hOps' hReply hAnswered.stays hWaits
    simp [hFinish, hEnds]

/-- A statement that returns one row, run alone. -/
def oneRowRun (op : PipelineOp) (hParams : op.params = []) : SoloRun where
  answer := { op, reply := .rows [] [[some [49]]] (some "SELECT 1") }
  net := ReplyTable.oneRow.network
  conn := .new
  params := []
  status := 73
  encodes := by rw [hParams]; rfl
  idle := rfl
  answered := by
    simp only [hParams]
    exact ⟨rfl, rfl, rfl⟩

def oneRowReply : OpReply := .rows [] [[some [49]]] (some "SELECT 1")

theorem oneRow_answered :
    Answered ReplyTable.oneRow.network .new
      (Pipeline.batch { ops := [.query "SELECT 1" [], .query "SELECT 2" []] })
      (wholeReply 73 [oneRowReply, oneRowReply]) :=
  answered_of_reliable (ReplyTable.reliable _) rfl rfl

/-- Two queries, each of which returns a row. -/
theorem finish_matches_queries :
    ∃ results,
      (Pipeline.finish { ops := [.query "SELECT 1" [], .query "SELECT 2" []] }
        ReplyTable.oneRow.network .new).1 = .ok results ∧
      List.Forall₂ SoloRun.Matches
        [oneRowRun (.query "SELECT 1" []) rfl, oneRowRun (.query "SELECT 2" []) rfl] results := by
  refine (finish_matches_iff [oneRowRun (.query "SELECT 1" []) rfl,
    oneRowRun (.query "SELECT 2" []) rfl] rfl rfl oneRow_answered).mpr ⟨?_, ?_⟩
  · intro run hMem
    simp only [List.mem_cons, List.not_mem_nil, or_false] at hMem
    obtain rfl | rfl := hMem <;> rfl
  · intro before first between last after hSplit hExecute
    have hMem : first ∈ before ++ first :: (between ++ last :: after) := by simp
    rw [← hSplit] at hMem
    obtain ⟨run, hRun, rfl⟩ := List.mem_map.mp hMem
    simp only [List.mem_cons, List.not_mem_nil, or_false] at hRun
    obtain rfl | rfl := hRun <;> cases hExecute

/-- A Query after an Execute that has returned a row gets that row as well. -/
theorem not_finish_matches_execute :
    ¬ ∃ results,
      (Pipeline.finish { ops := [.execute "INSERT" [], .query "SELECT 1" []] }
        ReplyTable.oneRow.network .new).1 = .ok results ∧
      List.Forall₂ SoloRun.Matches
        [oneRowRun (.execute "INSERT" []) rfl, oneRowRun (.query "SELECT 1" []) rfl] results := by
  intro h
  obtain ⟨results, hFinish, hMatches⟩ := h
  have hAnswered : Answered ReplyTable.oneRow.network .new
      (Pipeline.batch { ops := [.execute "INSERT" [], .query "SELECT 1" []] })
      (wholeReply 73 [oneRowReply, oneRowReply]) :=
    answered_of_reliable (ReplyTable.reliable _) rfl rfl
  have hRun : (Pipeline.finish { ops := [.execute "INSERT" [], .query "SELECT 1" []] }
      ReplyTable.oneRow.network .new).1 =
      .ok (absorbAll {} [⟨.execute "INSERT" [], oneRowReply⟩,
        ⟨.query "SELECT 1" [], oneRowReply⟩]) := by
    rw [finish_eq rfl hAnswered]
    exact readResults_of_answered _ rfl (hAnswered.inbox _) (by decide)
  rw [hRun, Outcome.ok.injEq] at hFinish
  subst hFinish
  have hLast := (List.forall₂_cons.mp (List.forall₂_cons.mp hMatches).2).1
  rw [SoloRun.matches_iff _ rfl] at hLast
  cases hLast

end Pipeline

end PgClient
