import PgClient.Pool.Task

/-!
The counters of the pool against the guards and the creations that there are. They agree
exactly as long as no future is dropped while it creates a connection: that leaves its
pending count behind.
-/

namespace PgClient

open Tasks Tasks.Behaviour

namespace Pool

namespace Task

def guards : Task → Nat
  | .holding _ => 1
  | _ => 0

/-- A creation is in flight from the critical section that counts it. -/
def creations : Task → Nat
  | .decided _ .createNew | .creating _ | .replacing => 1
  | _ => 0

theorem creations_decided {loop : AcquireLoop} {decision : AcquireDecision}
    (h : decision ≠ .createNew) : (decided loop decision).creations = 0 := by
  cases decision <;> first | rfl | exact absurd rfl h

/-- The steps that take one off the active count. -/
def leavesGuard : Task → Event → Bool
  | .holding _, .release | .holding _, .drop | .holding _, .detach => true
  | _, _ => false

/-- The steps that take one off the pending count. -/
def endsCreation : Task → Event → Bool
  | .creating _, .connected _ _ | .replacing, .connected _ _ => true
  | _, _ => false

end Task

abbrev State := System Pool Task
abbrev PoolMove := Move Pool Task Event Nat

structure Exact (s : State) : Prop where
  active : s.shared.activeCount = weigh Task.guards s.tasks
  pending : s.shared.pendingCount = weigh Task.creations s.tasks

/-- No saturating subtraction of the move finds a count of zero. -/
def Unclamped (m : PoolMove) : Prop :=
  ∀ index event task, m.label = .step index event → m.before.tasks[index]? = some task →
    (task.leavesGuard event → 0 < m.before.shared.activeCount) ∧
      (task.endsCreation event → 0 < m.before.shared.pendingCount)

/-- A future is dropped at the await of a connection that it creates. -/
def AbandonsCreation (m : PoolMove) : Prop :=
  ∃ index task, m.label = .step index .cancel ∧ m.before.tasks[index]? = some task ∧
    0 < task.creations

variable {display : PgError → String} {pool pool' : Pool} {task task' : Task} {event : Event}

/-- What a step adds to one side of the accounts it adds to the other. -/
theorem Stepped.balanced (h : Stepped display pool task event pool' task')
    (hGuards : task.guards ≤ pool.activeCount) (hCreations : task.creations ≤ pool.pendingCount)
    (hKept : event = .cancel → task.creations = 0) :
    pool'.activeCount + task.guards = pool.activeCount + task'.guards ∧
      pool'.pendingCount + task.creations = pool.pendingCount + task'.creations := by
  cases h with
  | decides _ hDecision =>
      rw [Task.creations_decided hDecision]
      exact ⟨rfl, rfl⟩
  | misses _ hDecision =>
      rw [Task.creations_decided (by rcases hDecision with rfl | rfl | rfl <;> simp)]
      exact ⟨rfl, rfl⟩
  | cancelled hAwaits =>
      rw [hKept rfl]
      cases task with
      | holding acquired => cases hAwaits
      | _ => exact ⟨rfl, rfl⟩
  | _ =>
      simp only [Task.guards, Task.creations] at hGuards hCreations
      simp [Task.guards, Task.creations] <;> omega

theorem exact_of_fresh {s : State} (h : Fresh s) : Exact s := by
  obtain ⟨config, attempt, now, hNew⟩ := h.new
  simp only [Pool.new] at hNew
  cases hValid : config.validate with
  | error e =>
      rw [hValid] at hNew
      cases hNew
  | ok =>
      rw [hValid] at hNew
      have hShared := Except.ok.inj hNew
      constructor <;> rw [h.noTask, ← hShared] <;> rfl

theorem exact_next {s s' : State} {label : Label Task Event Nat} (h : Exact s)
    (hNext : (behaviour display).next s label = some s')
    (hKept : ¬ AbandonsCreation ⟨s, label, s'⟩) : Exact s' := by
  cases label with
  | start task =>
      obtain ⟨hStarts, rfl⟩ := next_start hNext
      have hLight : task.guards = 0 ∧ task.creations = 0 := by
        cases task <;> first | exact ⟨rfl, rfl⟩ | cases hStarts
      constructor
      · simpa [hLight.1] using h.active
      · simpa [hLight.2] using h.pending
  | pass time =>
      cases hNext
      exact ⟨h.active, h.pending⟩
  | step index event =>
      obtain ⟨task, pool', task', hTask, hStep, rfl⟩ := next_step hNext
      have hGuards := weigh_ge Task.guards hTask
      have hCreations := weigh_ge Task.creations hTask
      have hEvent : event = .cancel → task.creations = 0 := by
        rintro rfl
        exact Nat.eq_zero_of_not_pos fun hPos => hKept ⟨index, task, rfl, hTask, hPos⟩
      obtain ⟨hActive, hPending⟩ := (stepped hStep).balanced (h.active ▸ hGuards)
        (h.pending ▸ hCreations) hEvent
      have hGuardsSet := weigh_set Task.guards hTask task'
      have hCreationsSet := weigh_set Task.creations hTask task'
      have := h.active
      have := h.pending
      constructor <;> dsimp only <;> omega

theorem unclamped_of_exact {m : PoolMove} (h : Exact m.before) : Unclamped m := by
  intro index event task _ hTask
  constructor
  · intro hLeaves
    rw [h.active]
    refine Nat.lt_of_lt_of_le ?_ (weigh_ge Task.guards hTask)
    cases task <;> first | exact Nat.one_pos | cases hLeaves
  · intro hEnds
    rw [h.pending]
    refine Nat.lt_of_lt_of_le ?_ (weigh_ge Task.creations hTask)
    cases task <;> first | exact Nat.one_pos | cases hEnds

/-- The count of an abandoned creation stays. -/
theorem not_exact_of_abandons {m : PoolMove} (h : Exact m.before)
    (hNext : (behaviour display).next m.before m.label = some m.after)
    (hAbandons : AbandonsCreation m) : ¬ Exact m.after := by
  obtain ⟨index, task, hLabel, hTask, hCreates⟩ := hAbandons
  rw [hLabel] at hNext
  obtain ⟨task₀, pool', task', hTask₀, hStep, hAfter⟩ := next_step hNext
  obtain rfl := Option.some.inj (hTask.symm.trans hTask₀)
  intro hExact
  have hPending := h.pending
  have hPendingAfter := hExact.pending
  have hSet := weigh_set Task.creations hTask task'
  rw [hAfter] at hPendingAfter
  cases stepped hStep with
  | cancelled hAwaits =>
      have hDone : Task.creations .done = 0 := rfl
      dsimp only at hPendingAfter
      omega

theorem Exact.total {s : State} (h : Exact s) :
    s.shared.total =
      s.shared.idle.length + weigh Task.guards s.tasks + weigh Task.creations s.tasks := by
  rw [Pool.total, h.active, h.pending]

/-- The accounts are exact throughout a run, no subtraction clamps and no capacity is
leaked, if and only if the run abandons no creation. -/
theorem accounting_exact_iff {start last : State} {moves : List PoolMove} (hFresh : Fresh start)
    (hRun : (behaviour display).Run start moves last) :
    (∀ m ∈ moves, Exact m.after ∧ Unclamped m ∧
      m.after.shared.total = m.after.shared.idle.length + weigh Task.guards m.after.tasks +
        weigh Task.creations m.after.tasks) ↔
      ∀ m ∈ moves, ¬ AbandonsCreation m := by
  have hStart := exact_of_fresh hFresh
  constructor
  · intro hAccounts m hMem hAbandons
    obtain ⟨-, hBefore⟩ := hRun.before hStart fun m hMem => (hAccounts m hMem).1
    exact not_exact_of_abandons (hBefore m hMem) (hRun.next m hMem) hAbandons (hAccounts m hMem).1
  · intro hKept m hMem
    obtain ⟨-, hExact⟩ := hRun.invariant hStart
      (fun s label s' hInv hNext hAllowed => exact_next hInv hNext hAllowed) hKept
    obtain ⟨hBefore, hAfter⟩ := hExact m hMem
    exact ⟨hAfter, unclamped_of_exact hBefore, hAfter.total⟩

/-- An empty pool of one connection. -/
def smallPool : Pool where
  config := { maxSize := 1, acquireTimeout := some 1 }
  now := 0

theorem fresh_smallPool : Fresh ⟨smallPool, []⟩ :=
  ⟨⟨smallPool.config, fun _ => (0, .error .cancelled), 0, rfl⟩, rfl⟩

/-- A network that accepts everything and says nothing. -/
def silentNetwork : Network where
  frontend := fun _ => .ok []
  frontendTotal := fun _ => []
  typeFromOid := fun _ => none
  answer := fun _ _ => ⟨[], none⟩
  writeError := fun _ => none
  flushError := fun _ => none

/-- A guard is acquired with a new connection and dropped again. -/
def briefUse : List (Label Task Event Nat) :=
  [.start (.acquiring .acquire), .step 0 .run, .step 0 .run,
    .step 0 (.connected silentNetwork (.ok .new)), .step 0 .drop, .step 0 .run]

theorem accounting_exact_briefUse :
    ∃ moves last, (behaviour fun _ => "").Run ⟨smallPool, []⟩ moves last ∧ moves.length = 6 ∧
      ((∀ m ∈ moves, Exact m.after ∧ Unclamped m ∧
        m.after.shared.total = m.after.shared.idle.length + weigh Task.guards m.after.tasks +
          weigh Task.creations m.after.tasks) ↔
        ∀ m ∈ moves, ¬ AbandonsCreation m) :=
  have hRun := run_of_trace briefUse rfl
  ⟨_, _, hRun, rfl, accounting_exact_iff fresh_smallPool hRun⟩

/-- An `acquire` that is dropped while it connects. -/
def abandonedCreation : List (Label Task Event Nat) :=
  [.start (.acquiring .acquire), .step 0 .run, .step 0 .run, .step 0 .cancel]

theorem accounting_inexact :
    ¬ ∀ (display : PgError → String) (start last : State) (moves : List PoolMove), Fresh start →
      (behaviour display).Run start moves last → ∀ m ∈ moves, Exact m.after := by
  intro hExact
  have hRun := run_of_trace (b := behaviour fun _ => "") abandonedCreation
    (s := ⟨smallPool, []⟩) rfl
  have hLast := (hExact _ _ _ _ fresh_smallPool hRun _ (List.mem_cons_of_mem _
    (List.mem_cons_of_mem _ (List.mem_cons_of_mem _ List.mem_cons_self)))).pending
  cases hLast

end Pool
end PgClient
