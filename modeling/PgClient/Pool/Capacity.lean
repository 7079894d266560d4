import PgClient.Pool.Wakeup

/-!
How many connections the pool really has. The counters leave out those that are popped
for a health check or being reset, and a replacement is created without looking at the
maximum, so a creation can begin in a pool that is full already.
-/

namespace PgClient

open Tasks Tasks.Behaviour

namespace Pool

/-- Checked out, being created, popped for a health check, or being reset. -/
def Task.live (task : Task) : Nat := task.guards + task.creations + task.unseen

def live (s : State) : Nat := s.shared.idle.length + weigh Task.live s.tasks

/-- The critical sections that count a new creation. -/
def BeginsCreation (pool : Pool) : Task → Event → Prop
  | .acquiring loop, .run => pool.closed = false ∧ pool.decision loop = .createNew
  | .maintainingMinIdle, .run =>
      pool.closed = false ∧ pool.idle.length + pool.pendingCount < pool.config.minIdle
  | _, _ => False

/-- A creation begins although the pool has as many connections as it may have. -/
def Overfills (m : PoolMove) : Prop :=
  ∃ index event task, m.label = .step index event ∧ m.before.tasks[index]? = some task ∧
    BeginsCreation m.before.shared task event ∧ m.before.shared.config.maxSize ≤ live m.before

variable {display : PgError → String} {pool pool' : Pool} {task task' : Task} {event : Event}

theorem Stepped.config (h : Stepped display pool task event pool' task') :
    pool'.config = pool.config := by
  cases h <;> rfl

theorem Task.live_decided {loop : AcquireLoop} {decision : AcquireDecision}
    (h : decision ≠ .createNew) : (decided loop decision).live = 0 := by
  rw [live, creations_decided h]
  rfl

/-- Only the beginning of a creation adds a connection. -/
theorem Stepped.live (h : Stepped display pool task event pool' task') :
    BeginsCreation pool task event ∧
        pool'.idle.length + task'.live = pool.idle.length + task.live + 1 ∨
      pool'.idle.length + task'.live ≤ pool.idle.length + task.live := by
  cases h with
  | beginsCreation hOpen hDecision => exact .inl ⟨⟨hOpen, hDecision⟩, rfl⟩
  | beginsReplacement hOpen hShort => exact .inl ⟨⟨hOpen, hShort⟩, rfl⟩
  | decides _ hDecision =>
      right
      rw [Task.live_decided hDecision]
      exact Nat.le_refl _
  | misses => exact .inr (Nat.le_add_right _ _)
  | popsExpired hIdle | popsForCheck hIdle | claims hIdle =>
      right
      simp [hIdle, Task.live, Task.guards, Task.creations, Task.unseen]
  | maintains =>
      have hFilter := List.length_filter_le
        (fun pooled => !pooled.isExpired pool.config pool.now) pool.idle
      exact .inr hFilter
  | _ =>
      right
      simp [Task.live, Task.guards, Task.creations, Task.unseen]

theorem live_of_begins (h : step display pool task event = some (pool', task'))
    (hBegins : BeginsCreation pool task event) :
    pool'.idle.length + task'.live = pool.idle.length + task.live + 1 := by
  cases task with
  | acquiring loop =>
      cases event with
      | run =>
          obtain ⟨hOpen, hDecision⟩ := hBegins
          simp only [step, acquireStep, hOpen, hDecision, Bool.false_eq_true, if_false,
            if_true] at h
          cases h
          rfl
      | _ => cases hBegins
  | maintainingMinIdle =>
      cases event with
      | run =>
          obtain ⟨hOpen, hShort⟩ := hBegins
          have hNot : ¬ (pool.closed ∨ pool.idle.length + pool.pendingCount ≥
            pool.config.minIdle) := by
            simp [hOpen, hShort]
          simp only [step, maintainMinIdleStep, if_neg hNot] at h
          cases h
          rfl
      | _ => cases hBegins
  | _ => cases hBegins

theorem length_prewarmed_le (attempt : Nat → Nat × Except PgError Connection) (count : Nat) :
    (prewarmed attempt count).length ≤ count :=
  (List.length_filterMap_le _ _).trans_eq List.length_range

theorem live_of_fresh {s : State} (h : Fresh s) : live s ≤ s.shared.config.maxSize := by
  obtain ⟨config, attempt, now, hNew⟩ := h.new
  simp only [Pool.new] at hNew
  cases hValid : config.validate with
  | error e =>
      rw [hValid] at hNew
      cases hNew
  | ok =>
      rw [hValid] at hNew
      simp only [live, h.noTask, ← Except.ok.inj hNew, weigh_nil, Nat.add_zero]
      exact Nat.le_trans (length_prewarmed_le attempt _) (PoolConfig.validate_ok hValid).2

theorem live_next {s s' : State} {label : Label Task Event Nat}
    (h : live s ≤ s.shared.config.maxSize)
    (hNext : (behaviour display).next s label = some s')
    (hKept : ¬ Overfills ⟨s, label, s'⟩) : live s' ≤ s'.shared.config.maxSize := by
  cases label with
  | start task =>
      obtain ⟨hStarts, rfl⟩ := next_start hNext
      have hLight : task.live = 0 := by
        cases task <;> first | rfl | cases hStarts
      simpa [live, hLight] using h
  | pass time =>
      cases hNext
      exact h
  | step index event =>
      obtain ⟨task, pool', task', hTask, hStep, rfl⟩ := next_step hNext
      have hSet := weigh_set Task.live hTask task'
      have hConfig := (stepped hStep).config
      simp only [live, hConfig] at h ⊢
      cases (stepped hStep).live with
      | inl hBegun =>
          obtain ⟨hBegins, hMore⟩ := hBegun
          have hRoom : live s < s.shared.config.maxSize := Nat.lt_of_not_le fun hFull =>
            hKept ⟨index, event, task, rfl, hTask, hBegins, hFull⟩
          simp only [live] at hRoom
          omega
      | inr hLess => omega

theorem live_of_overfills {m : PoolMove}
    (hNext : (behaviour display).next m.before m.label = some m.after) (h : Overfills m) :
    m.after.shared.config.maxSize < live m.after := by
  obtain ⟨index, event, task, hLabel, hTask, hBegins, hFull⟩ := h
  rw [hLabel] at hNext
  obtain ⟨task₀, pool', task', hTask₀, hStep, hAfter⟩ := next_step hNext
  obtain rfl := Option.some.inj (hTask.symm.trans hTask₀)
  have hSet := weigh_set Task.live hTask task'
  have hMore := live_of_begins hStep hBegins
  have hConfig := (stepped hStep).config
  simp only [hAfter, live, hConfig] at hFull ⊢
  omega

/-- While the only connection is being reset on its release, a second `acquire` creates
another. -/
def createdBesideReset : List (Label Task Event Nat) :=
  [.start (.acquiring .acquire), .step 0 .run, .step 0 .run,
    .step 0 (.connected silentNetwork (.ok .new)), .step 0 .release, .start (.acquiring .acquire),
    .step 1 .run]

theorem run_createdBesideReset (display : PgError → String) :
    ∃ moves, (behaviour display).Run ⟨smallPool, []⟩ moves
      ⟨{ smallPool with pendingCount := 1, totalCreated := 1 },
        [.resetting ⟨.new, 0⟩, .decided .acquire .createNew]⟩ :=
  ⟨_, run_of_trace createdBesideReset rfl⟩

end Pool
end PgClient
