import RioPassthru.Scheduler.TaskScheduler

set_option autoImplicit false

namespace RioPassthru

instance (timeNow : Nat) (task : Task) : Decidable (Served timeNow task) := inferInstanceAs (Decidable (_ ∧ _))

def quiet (timeNow : Nat) : PassInput := ⟨timeNow, fun _ => false⟩

def wakeAfter (timeNow wake : Nat) : Option Task → Nat
  | some task => if 0 < task.mTaskRateMs then min (task.visited timeNow).timeNextUpdateuS wake else wake
  | none => wake

def callsOf (timeNow position : Nat) : Option Task → List Call
  | some task => if Served timeNow task then [callOf position timeNow task] else []
  | none => []

def quietCalls (timeNow : Nat) : Nat → List (Option Task) → List Call
  | _, [] => []
  | position, entry :: rest => callsOf timeNow position entry ++ quietCalls timeNow (position + 1) rest

theorem run_tasks_quiet (timeNow position wake : Nat) (tasks : List (Option Task)) :
    runTasks timeNow (fun _ => false) position wake tasks =
      ⟨tasks.map (Option.map (Task.visited timeNow)), quietCalls timeNow position tasks,
        tasks.foldl (wakeAfter timeNow) wake, false⟩ := by
  induction tasks generalizing position wake with
  | nil => rfl
  | cons entry rest ih =>
      cases entry with
      | none =>
          rw [run_tasks_null, ih]
          rfl
      | some task =>
          rw [runTasks, List.map_cons, List.foldl_cons, quietCalls, Option.map_some]
          by_cases rate : 0 < task.mTaskRateMs
          · by_cases due : task.Due timeNow
            · have served : Served timeNow task := ⟨rate, due⟩
              have moved : task.visited timeNow = task.advance := if_pos served
              rw [if_neg (Nat.not_le_of_lt rate), if_pos due, if_neg (by decide), ih, callsOf, if_pos served, wakeAfter,
                if_pos rate, moved]
              rfl
            · have idle : ¬ Served timeNow task := fun served => due served.2
              have kept : task.visited timeNow = task := if_neg idle
              rw [if_neg (Nat.not_le_of_lt rate), if_neg due, ih, callsOf, if_neg idle, wakeAfter, if_pos rate, kept]
              rfl
          · have idle : ¬ Served timeNow task := fun served => rate served.1
            have kept : task.visited timeNow = task := if_neg idle
            rw [if_pos (Nat.le_of_not_lt rate), ih, callsOf, if_neg idle, wakeAfter, if_neg rate, kept]
            rfl

theorem quiet_calls_at (timeNow offset index : Nat) (tasks : List (Option Task)) :
    ((quietCalls timeNow offset tasks).filter fun call => call.position = offset + index) =
      callsOf timeNow (offset + index) (tasks[index]?.getD none) := by
  have own : ∀ (entry : Option Task) (position other : Nat), ((callsOf timeNow position entry).filter fun call => call.position = other) =
      if position = other then callsOf timeNow position entry else [] := by
    intro entry position other
    cases entry with
    | none => simp [callsOf]
    | some task =>
        rw [callsOf]
        split <;> simp [callOf, List.filter_cons]
  have beyond : ∀ (tasks : List (Option Task)) (offset position : Nat), position < offset →
      ((quietCalls timeNow offset tasks).filter fun call => call.position = position) = [] := by
    intro tasks
    induction tasks with
    | nil => exact fun _ _ _ => rfl
    | cons entry rest ih =>
        intro offset position before
        rw [quietCalls, List.filter_append, own, if_neg (by omega), ih (offset + 1) position (by omega)]
        rfl
  induction tasks generalizing offset index with
  | nil => rfl
  | cons entry rest ih =>
      rw [quietCalls, List.filter_append, own]
      cases index with
      | zero => simp [beyond rest (offset + 1) offset (by omega)]
      | succ index =>
          have shifted := ih (offset + 1) index
          rw [Nat.add_right_comm offset 1 index] at shifted
          rw [if_neg (by omega), List.nil_append, List.getElem?_cons_succ]
          exact shifted

namespace Task

def runs (timeNow : Nat) (task : Task) : List Nat :=
  if Served timeNow task then [(timeNow - task.timeLastUpdateuS) % 2 ^ 32] else []

def afterRuns (rate n : Nat) : Task := ⟨rate, 1000 * rate * n, 1000 * rate * (n - 1)⟩

end Task

namespace TaskScheduler

def runsAt (scheduler : TaskScheduler) (timeNow position : Nat) : List Nat :=
  ((scheduler.passOf (quiet timeNow)).calls.filter fun call => call.position = position).map Call.timeSinceLastUpdateMs

theorem runs_at_eq (scheduler : TaskScheduler) (timeNow position : Nat) :
    scheduler.runsAt timeNow position = (scheduler.taskList[position]?.getD none).elim [] (Task.runs timeNow) := by
  have at_position := quiet_calls_at timeNow 0 position scheduler.taskList
  rw [Nat.zero_add] at at_position
  rw [runsAt, passOf, quiet, run_tasks_quiet, at_position]
  cases scheduler.taskList[position]?.getD none with
  | none => rfl
  | some task =>
      rw [callsOf, Option.elim_some, Task.runs]
      split <;> rfl

theorem run_quiet (scheduler : TaskScheduler) (timeNow : Nat) :
    (scheduler.run (quiet timeNow)).taskList = scheduler.taskList.map (Option.map (Task.visited timeNow)) ∧
      (scheduler.run (quiet timeNow)).notifierAlarm = scheduler.taskList.foldl (wakeAfter timeNow) (2 ^ 64 - 1) := by
  rw [run, passOf, quiet, run_tasks_quiet]
  exact ⟨rfl, rfl⟩

def runsLog (scheduler : TaskScheduler) (position : Nat) (times : List Nat) : List (List Nat) :=
  (Runs.runLog (fun scheduler timeNow => (run scheduler (quiet timeNow), scheduler.runsAt timeNow position)) scheduler times).2

theorem runs_log_own (position : Nat) (times : List Nat) (scheduler : TaskScheduler) (task : Task)
    (listed : scheduler.taskList[position]? = some (some task)) :
    scheduler.runsLog position times =
      (Runs.runLog (fun (task : Task) timeNow => (task.visited timeNow, task.runs timeNow)) task times).2 := by
  induction times generalizing scheduler task with
  | nil => rfl
  | cons timeNow rest ih =>
      have next : (run scheduler (quiet timeNow)).taskList[position]? = some (some (task.visited timeNow)) := by
        rw [(run_quiet scheduler timeNow).1, List.getElem?_map, listed]
        rfl
      have now : scheduler.runsAt timeNow position = task.runs timeNow := by
        rw [runs_at_eq, listed]
        rfl
      have later := ih _ _ next
      rw [runsLog] at later
      rw [runsLog, Runs.runLog, Runs.runLog, now, later]

def startFresh (rates : List Nat) : TaskScheduler := start (rates.map fun rate => some (Task.fresh rate))

end TaskScheduler

-- The scheduler with, as ghost data, how often the task at each position has run.
structure Clocked where
  scheduler : TaskScheduler
  count : Nat → Nat

def Clocked.pass (clocked : Clocked) (timeNow : Nat) : Clocked where
  scheduler := clocked.scheduler.run (quiet timeNow)
  count := fun position => clocked.count position + (clocked.scheduler.runsAt timeNow position).length

@[simp] theorem count_pass (clocked : Clocked) (timeNow position : Nat) :
    (clocked.pass timeNow).count position =
      clocked.count position + (clocked.scheduler.runsAt timeNow position).length := rfl

structure TaskOnTime (clocked : Clocked) (timeNow position rate : Nat) : Prop where
  started : 1 ≤ (clocked.pass timeNow).count position
  phase : (clocked.pass timeNow).scheduler.taskList[position]? =
    some (some (Task.afterRuns rate ((clocked.pass timeNow).count position)))
  once : (clocked.scheduler.runsAt timeNow position).length ≤ 1
  ahead : (clocked.pass timeNow).count position ≤ timeNow ⌈/⌉ (1000 * rate)
  waiting : clocked.scheduler.runsAt timeNow position = [] →
    timeNow ≤ 1000 * rate * (clocked.pass timeNow).count position

def earliestUpdate (scheduler : TaskScheduler) : Option Nat :=
  (scheduler.taskList.filterMap (Option.map Task.timeNextUpdateuS)).min?

structure OnTime (rates : List Nat) (clocked : Clocked) (timeNow : Nat) : Prop where
  tasks : ∀ position rate, rates[position]? = some rate → TaskOnTime clocked timeNow position rate
  alarm : (clocked.pass timeNow).scheduler.notifierAlarm = (earliestUpdate (clocked.pass timeNow).scheduler).getD (2 ^ 64 - 1)

theorem after_runs_advance (rate n : Nat) (short : 1000 * rate < 2 ^ 32) :
    (Task.afterRuns rate n).advance = Task.afterRuns rate (n + 1) := by
  have period : (Task.afterRuns rate n).periodUs = 1000 * rate := by
    rw [Task.periodUs, Task.afterRuns, Nat.mul_comm rate 1000, Nat.mod_eq_of_lt short]
  rw [Task.advance, period]
  rfl

-- A due time of 0 is due at once, as any other is once it has passed.
theorem after_runs_served_iff (rate n timeNow : Nat) (valid : 1 ≤ rate) (started : 1 ≤ timeNow) :
    Served timeNow (Task.afterRuns rate n) ↔ 1000 * rate * n < timeNow := by
  refine ⟨?_, fun passed => ⟨valid, Or.inl passed⟩⟩
  intro ⟨_, due⟩
  obtain passed | zero := due
  · exact passed
  · have now : 1000 * rate * n = 0 := zero
    omega

theorem runs_ahead (rate n timeNow : Nat) (valid : 1 ≤ rate) (passed : 1000 * rate * n < timeNow) :
    n + 1 ≤ timeNow ⌈/⌉ (1000 * rate) := by
  by_contra fewer
  have bound : timeNow ⌈/⌉ (1000 * rate) ≤ n := by omega
  have reached := (ceilDiv_le_iff_le_mul (by omega : 0 < 1000 * rate)).mp bound
  omega

theorem min_get_d (times : List Nat) (most : Nat) (bounded : ∀ time ∈ times, time ≤ most) :
    min most (times.min?.getD most) = times.min?.getD most := by
  cases least : times.min? with
  | none => exact Nat.min_self most
  | some time =>
      apply Nat.min_eq_right
      exact bounded time (List.min?_mem least)

theorem wake_fold (timeNow : Nat) (tasks : List (Option Task)) (positive : ∀ task, some task ∈ tasks → 0 < task.mTaskRateMs)
    (wake : Nat) :
    tasks.foldl (wakeAfter timeNow) wake =
      ((tasks.map (Option.map (Task.visited timeNow))).filterMap (Option.map Task.timeNextUpdateuS)).foldl min wake := by
  induction tasks generalizing wake with
  | nil => rfl
  | cons entry rest ih =>
      have later := ih (fun task member => positive task (List.mem_cons_of_mem _ member))
      rw [List.foldl_cons, later]
      cases entry with
      | none => rfl
      | some task =>
          rw [wakeAfter, if_pos (positive task List.mem_cons_self), Nat.min_comm]
          rfl

section Rates

variable (rates : List Nat)

def ValidRates : Prop := ∀ rate ∈ rates, 1 ≤ rate ∧ 1000 * rate < 2 ^ 32

instance : Decidable (ValidRates rates) := inferInstanceAs (Decidable (∀ rate ∈ rates, _ ∧ _))

structure Phased (clocked : Clocked) : Prop where
  tasks : clocked.scheduler.taskList =
    rates.mapIdx fun position rate => some (Task.afterRuns rate (clocked.count position))
  early : ∀ (position rate : Nat), rates[position]? = some rate →
    clocked.count position = 0 ∨ 1000 * rate * (clocked.count position - 1) < clocked.scheduler.timeNow

structure LaterTime (clocked : Clocked) (timeNow : Nat) : Prop where
  ordered : clocked.scheduler.timeNow ≤ timeNow
  started : 1 ≤ timeNow
  bounded : timeNow + 2 ^ 32 ≤ 2 ^ 64

variable {rates} (valid : ValidRates rates) (clocked : Clocked) (kept : Phased rates clocked) (timeNow : Nat)
  (later : LaterTime clocked timeNow)

include kept in
theorem phased_entry (position rate : Nat) (listed : rates[position]? = some rate) :
    clocked.scheduler.taskList[position]? = some (some (Task.afterRuns rate (clocked.count position))) := by
  rw [kept.tasks, List.getElem?_mapIdx, listed]
  rfl

include valid kept later

theorem task_pass (position rate : Nat) (listed : rates[position]? = some rate) :
    1 ≤ (clocked.pass timeNow).count position ∧
      1000 * rate * ((clocked.pass timeNow).count position - 1) < timeNow ∧
      (Task.afterRuns rate (clocked.count position)).visited timeNow =
        Task.afterRuns rate ((clocked.pass timeNow).count position) ∧
      (clocked.scheduler.runsAt timeNow position).length ≤ 1 ∧
      (clocked.scheduler.runsAt timeNow position = [] →
        timeNow ≤ 1000 * rate * (clocked.pass timeNow).count position) := by
  obtain ⟨positive, short⟩ := valid rate (List.mem_of_getElem? listed)
  have served := after_runs_served_iff rate (clocked.count position) timeNow positive later.started
  have ran : clocked.scheduler.runsAt timeNow position = (Task.afterRuns rate (clocked.count position)).runs timeNow := by
    rw [TaskScheduler.runs_at_eq, phased_entry clocked kept position rate listed]
    rfl
  by_cases due : 1000 * rate * clocked.count position < timeNow
  · have moved : (Task.afterRuns rate (clocked.count position)).visited timeNow =
        (Task.afterRuns rate (clocked.count position)).advance := if_pos (served.mpr due)
    rw [Task.runs, if_pos (served.mpr due)] at ran
    have counted : (clocked.pass timeNow).count position = clocked.count position + 1 := by
      rw [count_pass, ran]
      rfl
    rw [counted, moved, after_runs_advance rate _ short, ran]
    exact ⟨Nat.le_add_left _ _, due, rfl, Nat.le_refl _, fun none => nomatch none⟩
  · have idle : (Task.afterRuns rate (clocked.count position)).visited timeNow =
        Task.afterRuns rate (clocked.count position) := if_neg fun now => due (served.mp now)
    rw [Task.runs, if_neg fun now => due (served.mp now)] at ran
    have counted : (clocked.pass timeNow).count position = clocked.count position := by
      rw [count_pass, ran]
      rfl
    have before : 1 ≤ clocked.count position := by
      by_contra none
      have zero : clocked.count position = 0 := by omega
      have started := later.started
      rw [zero] at due
      omega
    rw [counted, idle, ran]
    refine ⟨before, ?_, rfl, Nat.zero_le _, fun _ => Nat.le_of_not_lt due⟩
    have ordered := later.ordered
    have early := kept.early position rate listed
    omega

theorem phased_pass : Phased rates (clocked.pass timeNow) := by
  refine ⟨?_, ?_⟩
  · apply List.ext_getElem?
    intro position
    rw [Clocked.pass, (TaskScheduler.run_quiet clocked.scheduler timeNow).1, List.getElem?_map, List.getElem?_mapIdx]
    cases listed : rates[position]? with
    | none =>
        rw [kept.tasks, List.getElem?_mapIdx, listed]
        rfl
    | some rate =>
        rw [phased_entry clocked kept position rate listed]
        exact congrArg (fun task => some (some task)) (task_pass valid clocked kept timeNow later position rate listed).2.2.1
  · intro position rate listed
    exact Or.inr (task_pass valid clocked kept timeNow later position rate listed).2.1

theorem task_on_time (position rate : Nat) (listed : rates[position]? = some rate) :
    TaskOnTime clocked timeNow position rate := by
  obtain ⟨started, early, _, once, waiting⟩ := task_pass valid clocked kept timeNow later position rate listed
  refine ⟨started, ?_, once, ?_, waiting⟩
  · exact phased_entry _ (phased_pass valid clocked kept timeNow later) position rate listed
  · have ahead := runs_ahead rate _ timeNow (valid rate (List.mem_of_getElem? listed)).1 early
    omega

theorem alarm_earliest :
    (clocked.pass timeNow).scheduler.notifierAlarm =
      (earliestUpdate (clocked.pass timeNow).scheduler).getD (2 ^ 64 - 1) := by
  have next := phased_pass valid clocked kept timeNow later
  have positive : ∀ task, some task ∈ clocked.scheduler.taskList → 0 < task.mTaskRateMs := by
    intro task member
    rw [kept.tasks, List.mem_mapIdx] at member
    obtain ⟨position, within, same⟩ := member
    injection same with same
    rw [← same]
    exact (valid rates[position] (List.getElem_mem within)).1
  have bounded : ∀ time ∈ (clocked.pass timeNow).scheduler.taskList.filterMap (Option.map Task.timeNextUpdateuS),
      time ≤ 2 ^ 64 - 1 := by
    intro time member
    obtain ⟨entry, listed, found⟩ := List.mem_filterMap.mp member
    rw [next.tasks, List.mem_mapIdx] at listed
    obtain ⟨position, within, same⟩ := listed
    rw [← same] at found
    injection found with found
    obtain ⟨started, early, _⟩ := task_pass valid clocked kept timeNow later position rates[position]
      (List.getElem?_eq_getElem within)
    have short := (valid rates[position] (List.getElem_mem within)).2
    have room := later.bounded
    generalize (clocked.pass timeNow).count position = count at started early found
    generalize rates[position] = rate at early short found
    obtain ⟨before, rfl⟩ := Nat.exists_eq_add_one.mpr started
    have sum : 1000 * rate * before + 1000 * rate = time := found
    rw [Nat.add_sub_cancel] at early
    omega
  have ran := TaskScheduler.run_quiet clocked.scheduler timeNow
  rw [Clocked.pass, ran.2, wake_fold timeNow _ positive, ← ran.1, List.foldl_min]
  exact min_get_d _ _ bounded

end Rates

theorem later_times (times : List Nat) (ordered : times.Pairwise (· ≤ ·))
    (range : ∀ timeNow ∈ times, 1 ≤ timeNow ∧ timeNow + 2 ^ 32 ≤ 2 ^ 64) (clocked : Clocked)
    (after : ∀ timeNow ∈ times, clocked.scheduler.timeNow ≤ timeNow) :
    Runs.EachStep Clocked.pass LaterTime clocked times := by
  induction times generalizing clocked with
  | nil => trivial
  | cons timeNow rest ih =>
      obtain ⟨now, restRange⟩ := List.forall_mem_cons.mp range
      obtain ⟨above, restOrdered⟩ := List.pairwise_cons.mp ordered
      exact ⟨⟨after timeNow List.mem_cons_self, now.1, now.2⟩, ih restOrdered restRange (clocked.pass timeNow) above⟩

theorem start_phased (rates : List Nat) : Phased rates ⟨TaskScheduler.startFresh rates, fun _ => 0⟩ := by
  refine ⟨?_, fun _ _ _ => Or.inl rfl⟩
  apply List.ext_getElem?
  intro position
  rw [TaskScheduler.startFresh, TaskScheduler.start, List.getElem?_map, List.getElem?_mapIdx]
  rfl

theorem scheduler_keeps_phase (rates times : List Nat) (valid : ValidRates rates) (ordered : times.Pairwise (· ≤ ·))
    (range : ∀ timeNow ∈ times, 1 ≤ timeNow ∧ timeNow + 2 ^ 32 ≤ 2 ^ 64) :
    Runs.EachStep Clocked.pass (OnTime rates) ⟨TaskScheduler.startFresh rates, fun _ => 0⟩ times ∧
      ∀ (others : List Nat) (position other rate : Nat), rates[position]? = some rate → others[other]? = some rate →
        (TaskScheduler.startFresh rates).runsLog position times = (TaskScheduler.startFresh others).runsLog other times := by
  refine ⟨?_, ?_⟩
  · refine Runs.each_step_of_invariant Clocked.pass (Phased rates) LaterTime (OnTime rates) ?_ times _ (start_phased rates)
      (later_times times ordered range _ fun _ _ => Nat.zero_le _)
    intro clocked timeNow kept later
    exact ⟨⟨task_on_time valid clocked kept timeNow later, alarm_earliest valid clocked kept timeNow later⟩,
      phased_pass valid clocked kept timeNow later⟩
  · intro others position other rate listed found
    have fresh : ∀ (rates : List Nat) (position : Nat), rates[position]? = some rate →
        (TaskScheduler.startFresh rates).taskList[position]? = some (some (Task.fresh rate)) := by
      intro rates position listed
      rw [TaskScheduler.startFresh, TaskScheduler.start, List.getElem?_map, listed]
      rfl
    rw [TaskScheduler.runs_log_own position times _ _ (fresh rates position listed),
      TaskScheduler.runs_log_own other times _ _ (fresh others other found)]

theorem scheduler_keeps_phase_of_two :
    Runs.EachStep Clocked.pass (OnTime [5, 20]) ⟨TaskScheduler.startFresh [5, 20], fun _ => 0⟩ [100, 42000, 42000, 50001] ∧
      ∀ (others : List Nat) (position other rate : Nat), [5, 20][position]? = some rate → others[other]? = some rate →
        (TaskScheduler.startFresh [5, 20]).runsLog position [100, 42000, 42000, 50001] =
          (TaskScheduler.startFresh others).runsLog other [100, 42000, 42000, 50001] :=
  scheduler_keeps_phase [5, 20] [100, 42000, 42000, 50001] (by decide) (by decide) (by decide)

end RioPassthru
