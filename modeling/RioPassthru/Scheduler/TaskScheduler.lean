import RioPassthru.Lib.Runs
import Mathlib

set_option autoImplicit false

namespace RioPassthru

-- FPGA times are microseconds since boot; a uint64_t of them does not wrap in use
-- and is a Nat here. The rate is a uint32_t, and so is its product with 1000.
structure Task where
  mTaskRateMs : Nat
  timeNextUpdateuS : Nat
  timeLastUpdateuS : Nat
deriving DecidableEq, Repr

namespace Task

def fresh (taskRateMs : Nat) : Task := ⟨taskRateMs, 0, 0⟩

def periodUs (task : Task) : Nat := task.mTaskRateMs * 1000 % 2 ^ 32

def Due (task : Task) (timeNow : Nat) : Prop :=
  task.timeNextUpdateuS < timeNow ∨ task.timeNextUpdateuS = 0

instance (task : Task) (timeNow : Nat) : Decidable (task.Due timeNow) :=
  inferInstanceAs (Decidable (_ ∨ _))

def advance (task : Task) : Task :=
  { task with
    timeLastUpdateuS := task.timeNextUpdateuS
    timeNextUpdateuS := task.timeNextUpdateuS + task.periodUs }

def visited (timeNow : Nat) (task : Task) : Task :=
  if 0 < task.mTaskRateMs ∧ task.Due timeNow then task.advance else task

end Task

structure Call where
  position : Nat
  timeSinceLastUpdateMs : Nat
deriving DecidableEq, Repr

structure Pass where
  taskList : List (Option Task)
  calls : List Call
  nextWakeTime : Nat
  threw : Bool
deriving DecidableEq, Repr

def Pass.after (entry : Option Task) (calls : List Call) (rest : Pass) : Pass :=
  { rest with taskList := entry :: rest.taskList, calls := calls ++ rest.calls }

def callOf (position timeNow : Nat) (task : Task) : Call :=
  ⟨position, (timeNow - task.timeLastUpdateuS) % 2 ^ 32⟩

-- The for loop of one pass from a position on. throws says which run() calls throw;
-- the try block is outside the loop, so a throw leaves the rest of the list as it is.
def runTasks (timeNow : Nat) (throws : Nat → Bool) : Nat → Nat → List (Option Task) → Pass
  | _, nextWakeTime, [] => ⟨[], [], nextWakeTime, false⟩
  | position, nextWakeTime, none :: rest =>
      (runTasks timeNow throws (position + 1) nextWakeTime rest).after none []
  | position, nextWakeTime, some task :: rest =>
      if task.mTaskRateMs ≤ 0 then
        (runTasks timeNow throws (position + 1) nextWakeTime rest).after (some task) []
      else if task.Due timeNow then
        if throws position then ⟨some task :: rest, [callOf position timeNow task], nextWakeTime, true⟩
        else
          (runTasks timeNow throws (position + 1) (min task.advance.timeNextUpdateuS nextWakeTime) rest).after
            (some task.advance) [callOf position timeNow task]
      else
        (runTasks timeNow throws (position + 1) (min task.timeNextUpdateuS nextWakeTime) rest).after (some task) []

structure TaskScheduler where
  taskList : List (Option Task)
  timeNow : Nat
  nextWakeTime : Nat
  notifierAlarm : Nat
deriving DecidableEq, Repr

structure PassInput where
  timeNow : Nat
  throws : Nat → Bool

namespace TaskScheduler

def start (taskList : List (Option Task)) : TaskScheduler := ⟨taskList, 0, 2 ^ 64 - 1, 0⟩

def scheduleTask (scheduler : TaskScheduler) (task : Task) : TaskScheduler :=
  { scheduler with taskList := scheduler.taskList ++ [some task] }

def passOf (scheduler : TaskScheduler) (input : PassInput) : Pass :=
  runTasks input.timeNow input.throws 0 (2 ^ 64 - 1) scheduler.taskList

-- One turn of the while loop; the alarm is only set when the for loop comes to its end.
def run (scheduler : TaskScheduler) (input : PassInput) : TaskScheduler :=
  let pass := scheduler.passOf input
  ⟨pass.taskList, input.timeNow, pass.nextWakeTime,
    if pass.threw then scheduler.notifierAlarm else pass.nextWakeTime⟩

end TaskScheduler

@[simp] theorem after_task_list (entry : Option Task) (calls : List Call) (rest : Pass) :
    (Pass.after entry calls rest).taskList = entry :: rest.taskList := rfl

@[simp] theorem after_calls (entry : Option Task) (calls : List Call) (rest : Pass) :
    (Pass.after entry calls rest).calls = calls ++ rest.calls := rfl

-- The exits of the loop body, so that later proofs never unfold runTasks.
theorem run_tasks_null (timeNow : Nat) (throws : Nat → Bool) (position wake : Nat) (rest : List (Option Task)) :
    runTasks timeNow throws position wake (none :: rest) =
      (runTasks timeNow throws (position + 1) wake rest).after none [] := rfl

theorem run_tasks_idle (timeNow : Nat) (throws : Nat → Bool) (position wake : Nat) (task : Task)
    (rest : List (Option Task)) (idle : ¬ (0 < task.mTaskRateMs ∧ task.Due timeNow)) :
    ∃ later, runTasks timeNow throws position wake (some task :: rest) =
      (runTasks timeNow throws (position + 1) later rest).after (some task) [] := by
  by_cases rate : task.mTaskRateMs ≤ 0
  · exact ⟨wake, by rw [runTasks, if_pos rate]⟩
  · have early : ¬ task.Due timeNow := fun due => idle ⟨Nat.lt_of_not_le rate, due⟩
    exact ⟨min task.timeNextUpdateuS wake, by rw [runTasks, if_neg rate, if_neg early]⟩

theorem run_tasks_throw (timeNow : Nat) (throws : Nat → Bool) (position wake : Nat) (task : Task)
    (rest : List (Option Task)) (served : 0 < task.mTaskRateMs ∧ task.Due timeNow)
    (thrown : throws position = true) :
    runTasks timeNow throws position wake (some task :: rest) =
      ⟨some task :: rest, [callOf position timeNow task], wake, true⟩ := by
  rw [runTasks, if_neg (Nat.not_le_of_lt served.1), if_pos served.2, if_pos thrown]

theorem run_tasks_served (timeNow : Nat) (throws : Nat → Bool) (position wake : Nat) (task : Task)
    (rest : List (Option Task)) (served : 0 < task.mTaskRateMs ∧ task.Due timeNow)
    (quiet : throws position = false) :
    runTasks timeNow throws position wake (some task :: rest) =
      (runTasks timeNow throws (position + 1) (min task.advance.timeNextUpdateuS wake) rest).after
        (some task.advance) [callOf position timeNow task] := by
  rw [runTasks, if_neg (Nat.not_le_of_lt served.1), if_pos served.2, quiet]
  rfl

def Served (timeNow : Nat) (task : Task) : Prop := 0 < task.mTaskRateMs ∧ task.Due timeNow

-- Everything a pass can do: it visits the first reached entries in order, and if that
-- is not the whole list, the entry after them is the due task whose run() threw.
structure PassShape (timeNow : Nat) (throws : Nat → Bool) (offset : Nat) (tasks : List (Option Task))
    (pass : Pass) (reached : Nat) : Prop where
  bound : reached ≤ tasks.length
  entries : pass.taskList = (tasks.take reached).map (Option.map (Task.visited timeNow)) ++ tasks.drop reached
  called : ∀ index task, index < reached → tasks[index]? = some (some task) → Served timeNow task →
    throws (offset + index) = false ∧ callOf (offset + index) timeNow task ∈ pass.calls
  within : ∀ call ∈ pass.calls, call.position ≤ offset + reached
  thrower : reached < tasks.length →
    ∃ task, tasks[reached]? = some (some task) ∧ Served timeNow task ∧ throws (offset + reached) = true

theorem pass_shape_skip (timeNow : Nat) (throws : Nat → Bool) (offset : Nat) (entry : Option Task)
    (rest : List (Option Task)) (pass : Pass) (reached : Nat)
    (idle : ∀ task, entry = some task → ¬ Served timeNow task)
    (shape : PassShape timeNow throws (offset + 1) rest pass reached) :
    PassShape timeNow throws offset (entry :: rest) (pass.after entry []) (reached + 1) := by
  have shift : ∀ index, offset + (index + 1) = offset + 1 + index := by omega
  have kept : Option.map (Task.visited timeNow) entry = entry := by
    cases entry with
    | none => rfl
    | some task => exact congrArg some (if_neg (idle task rfl))
  refine ⟨Nat.succ_le_succ shape.bound, ?_, ?_, ?_, ?_⟩
  · simp [shape.entries, kept]
  · intro index task before listed served
    cases index with
    | zero => exact absurd served (idle task (by simpa using listed))
    | succ earlier =>
        rw [shift earlier]
        exact shape.called earlier task (Nat.lt_of_succ_lt_succ before) (by simpa using listed) served
  · intro call member
    rw [shift reached]
    exact shape.within call member
  · intro short
    rw [shift reached, List.getElem?_cons_succ]
    exact shape.thrower (Nat.lt_of_succ_lt_succ short)

theorem pass_shape_served (timeNow : Nat) (throws : Nat → Bool) (offset : Nat) (task : Task)
    (rest : List (Option Task)) (pass : Pass) (reached : Nat) (served : Served timeNow task)
    (quiet : throws offset = false)
    (shape : PassShape timeNow throws (offset + 1) rest pass reached) :
    PassShape timeNow throws offset (some task :: rest)
      (pass.after (some task.advance) [callOf offset timeNow task]) (reached + 1) := by
  have shift : ∀ index, offset + (index + 1) = offset + 1 + index := by omega
  have moved : task.visited timeNow = task.advance := if_pos served
  refine ⟨Nat.succ_le_succ shape.bound, ?_, ?_, ?_, ?_⟩
  · simp [shape.entries, moved]
  · intro index other before listed otherServed
    cases index with
    | zero =>
        have same : task = other := by simpa using listed
        exact ⟨quiet, by simp [same]⟩
    | succ earlier =>
        rw [shift earlier]
        obtain ⟨calm, member⟩ := shape.called earlier other (Nat.lt_of_succ_lt_succ before)
          (by simpa using listed) otherServed
        exact ⟨calm, List.mem_append_right _ member⟩
  · intro call member
    rcases List.mem_append.mp member with first | later
    · have same : call = callOf offset timeNow task := by simpa using first
      rw [same]
      exact Nat.le_add_right _ _
    · rw [shift reached]
      exact shape.within call later
  · intro short
    rw [shift reached, List.getElem?_cons_succ]
    exact shape.thrower (Nat.lt_of_succ_lt_succ short)

-- Induction over the rest of the list; the position in the whole list is offset + index.
theorem run_tasks_shape (timeNow : Nat) (throws : Nat → Bool) (tasks : List (Option Task)) (offset wake : Nat) :
    ∃ reached, PassShape timeNow throws offset tasks (runTasks timeNow throws offset wake tasks) reached := by
  induction tasks generalizing offset wake with
  | nil => exact ⟨0, Nat.le_refl _, rfl, by simp, by simp [runTasks], by simp⟩
  | cons entry rest ih =>
      cases entry with
      | none =>
          obtain ⟨reached, shape⟩ := ih (offset + 1) wake
          rw [run_tasks_null]
          exact ⟨reached + 1, pass_shape_skip timeNow throws offset none rest _ reached (by simp) shape⟩
      | some task =>
          by_cases served : Served timeNow task
          · cases thrown : throws offset with
            | true =>
                rw [run_tasks_throw timeNow throws offset wake task rest served thrown]
                exact ⟨0, Nat.zero_le _, rfl, by simp, by simp [callOf], fun _ => ⟨task, rfl, served, thrown⟩⟩
            | false =>
                rw [run_tasks_served timeNow throws offset wake task rest served thrown]
                obtain ⟨reached, shape⟩ := ih (offset + 1) (min task.advance.timeNextUpdateuS wake)
                exact ⟨reached + 1, pass_shape_served timeNow throws offset task rest _ reached served thrown shape⟩
          · obtain ⟨later, run⟩ := run_tasks_idle timeNow throws offset wake task rest served
            obtain ⟨reached, shape⟩ := ih (offset + 1) later
            rw [run]
            refine ⟨reached + 1, pass_shape_skip timeNow throws offset (some task) rest _ reached ?_ shape⟩
            intro other same
            cases same
            exact served

theorem pass_shape_entry (timeNow : Nat) (throws : Nat → Bool) (offset : Nat) (tasks : List (Option Task))
    (pass : Pass) (reached : Nat) (shape : PassShape timeNow throws offset tasks pass reached) (index : Nat)
    (task : Task) (listed : tasks[index]? = some (some task)) :
    pass.taskList[index]? =
      if index < reached then some (some (task.visited timeNow)) else some (some task) := by
  have bound := shape.bound
  have within : index < tasks.length := (List.getElem?_eq_some_iff.mp listed).1
  rw [shape.entries]
  by_cases before : index < reached
  · rw [if_pos before, List.getElem?_append_left (by simp; omega)]
    simp [before, listed]
  · rw [if_neg before, List.getElem?_append_right (by simp; omega)]
    have length : ((tasks.take reached).map (Option.map (Task.visited timeNow))).length = reached := by
      simp; omega
    rw [length, List.getElem?_drop, Nat.add_sub_cancel' (Nat.le_of_not_lt before), listed]

def NoThrow (tasks : List (Option Task)) (timeNow : Nat) (throws : Nat → Bool) : Prop :=
  ∀ position task, tasks[position]? = some (some task) → Served timeNow task → throws position = false

theorem pass_shape_quiet (timeNow : Nat) (throws : Nat → Bool) (tasks : List (Option Task)) (pass : Pass)
    (reached : Nat) (shape : PassShape timeNow throws 0 tasks pass reached)
    (quiet : NoThrow tasks timeNow throws) : reached = tasks.length := by
  by_contra short
  have bound := shape.bound
  obtain ⟨task, listed, served, thrown⟩ := shape.thrower (by omega)
  rw [Nat.zero_add, quiet reached task listed served] at thrown
  cases thrown

def ServesDueTasks (scheduler : TaskScheduler) (input : PassInput) : Prop :=
  ∀ position task, scheduler.taskList[position]? = some (some task) →
    0 < task.mTaskRateMs → task.Due input.timeNow →
    (∃ call ∈ (scheduler.passOf input).calls, call.position = position) ∧
      ∃ later, (scheduler.run input).taskList[position]? = some (some later) ∧
        task.timeNextUpdateuS < later.timeNextUpdateuS

-- A rate that is a multiple of 2^29 ms makes the 32 bit period 0.
def DueTasksBehave (scheduler : TaskScheduler) (input : PassInput) : Prop :=
  ∀ position task, scheduler.taskList[position]? = some (some task) →
    0 < task.mTaskRateMs → task.Due input.timeNow → input.throws position = false ∧ task.periodUs ≠ 0

theorem serves_due_tasks_iff (scheduler : TaskScheduler) (input : PassInput) :
    ServesDueTasks scheduler input ↔ DueTasksBehave scheduler input := by
  obtain ⟨reached, shape⟩ :=
    run_tasks_shape input.timeNow input.throws scheduler.taskList 0 (2 ^ 64 - 1)
  constructor
  · intro serves position task listed rate due
    obtain ⟨later, found, progress⟩ := (serves position task listed rate due).2
    have entry := (pass_shape_entry _ _ _ _ _ _ shape position task listed).symm.trans found
    by_cases before : position < reached
    · rw [if_pos before, Task.visited, if_pos ⟨rate, due⟩] at entry
      have same : task.advance = later := by simpa using entry
      refine ⟨by simpa using (shape.called position task before listed ⟨rate, due⟩).1, ?_⟩
      rw [← same] at progress
      simp only [Task.advance] at progress
      omega
    · rw [if_neg before] at entry
      have same : task = later := by simpa using entry
      rw [same] at progress
      exact absurd progress (Nat.lt_irrefl _)
  · intro behave position task listed rate due
    have quiet : NoThrow scheduler.taskList input.timeNow input.throws :=
      fun index other present served => (behave index other present served.1 served.2).1
    have all := pass_shape_quiet _ _ _ _ _ shape quiet
    have before : position < reached := all ▸ (List.getElem?_eq_some_iff.mp listed).1
    have called := (shape.called position task before listed ⟨rate, due⟩).2
    refine ⟨⟨_, called, by simp [callOf]⟩, task.advance, ?_, ?_⟩
    · have entry := pass_shape_entry _ _ _ _ _ _ shape position task listed
      rw [if_pos before, Task.visited, if_pos ⟨rate, due⟩] at entry
      exact entry
    · have period := (behave position task listed rate due).2
      simp only [Task.advance]
      omega

theorem scheduler_fault_isolation_iff (scheduler : TaskScheduler) (passes : List PassInput) :
    Runs.EachStep TaskScheduler.run ServesDueTasks scheduler passes ↔
      Runs.EachStep TaskScheduler.run DueTasksBehave scheduler passes :=
  Runs.each_step_congr _ _ _ serves_due_tasks_iff passes scheduler

theorem scheduler_fault_not_isolated :
    ¬ ∀ (scheduler : TaskScheduler) (passes : List PassInput),
      Runs.EachStep TaskScheduler.run ServesDueTasks scheduler passes := by
  intro always
  have serves := (always (.start [some (.fresh 5), some (.fresh 5)]) [⟨1000, fun position => position == 0⟩]).1
  have missed := (serves 1 (.fresh 5) rfl (by decide) (by decide)).1
  revert missed
  decide

-- A task that throws on every pass keeps its due time 0 and starves all tasks behind it.
theorem thrower_starves_later_tasks (position : Nat) (task : Task) (rate : 0 < task.mTaskRateMs)
    (new : task.timeNextUpdateuS = 0) (scheduler : TaskScheduler)
    (listed : scheduler.taskList[position]? = some (some task)) (passes : List PassInput)
    (throwing : Runs.EachStep TaskScheduler.run (fun _ input => input.throws position = true) scheduler passes) :
    Runs.EachStep TaskScheduler.run
      (fun state input => ∀ call ∈ (state.passOf input).calls, call.position ≤ position) scheduler passes := by
  refine Runs.each_step_of_invariant TaskScheduler.run
    (fun state => state.taskList[position]? = some (some task)) _ _ ?_ passes scheduler listed throwing
  intro state input present thrown
  obtain ⟨reached, shape⟩ := run_tasks_shape input.timeNow input.throws state.taskList 0 (2 ^ 64 - 1)
  have cut : ¬ position < reached := by
    intro before
    have calm := (shape.called position task before present ⟨rate, Or.inr new⟩).1
    rw [Nat.zero_add, thrown] at calm
    cases calm
  constructor
  · intro call member
    have within := shape.within call member
    omega
  · have entry := pass_shape_entry _ _ _ _ _ _ shape position task present
    rw [if_neg cut] at entry
    exact entry

end RioPassthru
