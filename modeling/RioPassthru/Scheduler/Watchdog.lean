import RioPassthru.Network.NetworkManager
import RioPassthru.Scheduler.TaskScheduler

set_option autoImplicit false

namespace RioPassthru

-- The scheduler thread with the two tasks that touch the watchdog. received is a history
-- variable: the times of the passes in which the pump called externalControlMsgReceived.
structure SchedulerThread where
  scheduler : TaskScheduler
  network : NetworkManager
  external : ExternalControlManager
  received : List Nat

structure ThreadInput where
  timeNow : Nat
  arrivals : List Arrival

def ReceiveMessagesTask.run (timeNow : Nat) (thread : SchedulerThread) : SchedulerThread :=
  let pumped := (thread.network.receiveMessagePump thread.external).1
  { thread with
    network := pumped.network
    external := pumped.external
    received := if 0 < pumped.notified then timeNow :: thread.received else thread.received }

def ProcessHeartbeatTask.run (thread : SchedulerThread) : SchedulerThread :=
  { thread with external := thread.external.processHeartbeat }

-- receive and heartbeat are the positions of the two tasks in the list; no other task
-- reads the socket or touches ExternalControlManager.
def runCall (receive heartbeat timeNow : Nat) (thread : SchedulerThread) (call : Call) : SchedulerThread :=
  if call.position = receive then ReceiveMessagesTask.run timeNow thread
  else if call.position = heartbeat then ProcessHeartbeatTask.run thread
  else thread

def quietPass (timeNow : Nat) : PassInput := ⟨timeNow, fun _ => false⟩

def arrive (thread : SchedulerThread) (arrivals : List Arrival) : SchedulerThread :=
  { thread with network := { thread.network with zmqRecvSock := thread.network.zmqRecvSock ++ arrivals } }

def threadPass (receive heartbeat : Nat) (thread : SchedulerThread) (input : ThreadInput) : SchedulerThread :=
  { (thread.scheduler.passOf (quietPass input.timeNow)).calls.foldl (runCall receive heartbeat input.timeNow)
      (arrive thread input.arrivals) with
    scheduler := thread.scheduler.run (quietPass input.timeNow) }

def startThread (taskList : List (Option Task)) : SchedulerThread :=
  ⟨.start taskList, ⟨[], fun _ => none⟩, ⟨0⟩, []⟩

theorem receive_task_external (timeNow : Nat) (thread : SchedulerThread) :
    (NetworkManager.readSuccessful thread.network.zmqRecvSock = true ∧
        (ReceiveMessagesTask.run timeNow thread).received = timeNow :: thread.received ∧
        (ReceiveMessagesTask.run timeNow thread).external = ⟨50⟩) ∨
      (NetworkManager.readSuccessful thread.network.zmqRecvSock = false ∧
        (ReceiveMessagesTask.run timeNow thread).received = thread.received ∧
        (ReceiveMessagesTask.run timeNow thread).external = thread.external) := by
  rcases receive_loop_external thread.network.zmqRecvSock thread.network thread.external 0 with
    ⟨took, called, reset⟩ | ⟨refused, uncalled, kept⟩
  · exact Or.inl ⟨took, if_pos called, reset⟩
  · exact Or.inr ⟨refused, if_neg (Nat.not_lt_of_le (Nat.le_of_eq uncalled)), kept⟩

-- With count ticks left and the next tick due at due, the watchdog cannot expire
-- within 500 ms of a receipt: the last tick comes after due + 20000 * (count - 1).
structure Guard (received : List Nat) (count due timeNow : Nat) : Prop where
  past : ∀ time ∈ received, time ≤ timeNow
  expired : count = 0 → ∀ time ∈ received, time + 500000 ≤ timeNow
  counting : 0 < count → ∀ time ∈ received, time + 499999 ≤ due + 20000 * (count - 1)

theorem guard_later (received : List Nat) (count due timeNow later : Nat) (passed : timeNow ≤ later)
    (guarded : Guard received count due timeNow) : Guard received count due later := by
  refine ⟨fun time member => Nat.le_trans (guarded.past time member) passed, ?_, guarded.counting⟩
  intro zero time member
  exact Nat.le_trans (guarded.expired zero time member) passed

theorem guard_receive (received : List Nat) (count due timeNow : Nat) (timely : timeNow ≤ due + 480001)
    (guarded : Guard received count due timeNow) : Guard (timeNow :: received) 50 due timeNow := by
  have past : ∀ time ∈ timeNow :: received, time ≤ timeNow := by
    intro time member
    rcases List.mem_cons.mp member with same | older
    · exact Nat.le_of_eq same
    · exact guarded.past time older
  refine ⟨past, fun zero => absurd zero (by decide), ?_⟩
  intro _ time member
  have before := past time member
  omega

theorem guard_tick (received : List Nat) (external : ExternalControlManager) (due timeNow : Nat)
    (reached : due < timeNow ∨ due = 0) (guarded : Guard received external.mLastConnectionTime due timeNow) :
    Guard received external.processHeartbeat.mLastConnectionTime (due + 20000) timeNow := by
  by_cases running : 0 < external.mLastConnectionTime
  · have next : external.processHeartbeat.mLastConnectionTime = external.mLastConnectionTime - 1 := by
      simp [ExternalControlManager.processHeartbeat, running]
    rw [next]
    refine ⟨guarded.past, ?_, ?_⟩
    · intro zero time member
      have bound := guarded.counting running time member
      have last : external.mLastConnectionTime - 1 = 0 := zero
      rw [last] at bound
      omega
    · intro _ time member
      have bound := guarded.counting running time member
      omega
  · have kept : external.processHeartbeat = external := by
      simp [ExternalControlManager.processHeartbeat, running]
    rw [kept]
    refine ⟨guarded.past, guarded.expired, ?_⟩
    intro positive
    exact absurd positive running

section Loop

variable (receive heartbeat timeNow : Nat) (beat : Task)

def dueFrom (position : Nat) : Nat :=
  if position ≤ heartbeat then beat.timeNextUpdateuS else (beat.visited timeNow).timeNextUpdateuS

theorem due_from_other (position : Nat) (other : position ≠ heartbeat) :
    dueFrom heartbeat timeNow beat (position + 1) = dueFrom heartbeat timeNow beat position := by
  simp only [dueFrom]
  by_cases before : position ≤ heartbeat
  · rw [if_pos before, if_pos (by omega)]
  · rw [if_neg before, if_neg (by omega)]

theorem due_from_idle (position : Nat) (idle : position = heartbeat → ¬ Served timeNow beat) :
    dueFrom heartbeat timeNow beat (position + 1) = dueFrom heartbeat timeNow beat position := by
  by_cases here : position = heartbeat
  · have kept : beat.visited timeNow = beat := if_neg (idle here)
    simp [dueFrom, kept]
  · exact due_from_other heartbeat timeNow beat position here

theorem due_from_served (rate : beat.mTaskRateMs = 20) (served : Served timeNow beat) :
    dueFrom heartbeat timeNow beat (heartbeat + 1) = dueFrom heartbeat timeNow beat heartbeat + 20000 := by
  have moved : beat.visited timeNow = beat.advance := if_pos served
  simp [dueFrom, moved, Task.advance, Task.periodUs, rate]

theorem run_call_guard (distinct : receive ≠ heartbeat) (rate : beat.mTaskRateMs = 20) (thread : SchedulerThread)
    (call : Call) (beating : call.position = heartbeat → Served timeNow beat)
    (timely : call.position = receive → NetworkManager.readSuccessful thread.network.zmqRecvSock = true →
      timeNow ≤ dueFrom heartbeat timeNow beat receive + 480001)
    (guarded : Guard thread.received thread.external.mLastConnectionTime
      (dueFrom heartbeat timeNow beat call.position) timeNow) :
    Guard (runCall receive heartbeat timeNow thread call).received
      (runCall receive heartbeat timeNow thread call).external.mLastConnectionTime
      (dueFrom heartbeat timeNow beat (call.position + 1)) timeNow := by
  by_cases pumping : call.position = receive
  · rw [due_from_other heartbeat timeNow beat _ (pumping ▸ distinct)]
    rw [runCall, if_pos pumping]
    rcases receive_task_external timeNow thread with ⟨took, noted, reset⟩ | ⟨_, noted, kept⟩
    · rw [noted, reset]
      exact guard_receive _ _ _ _ (pumping ▸ timely pumping took) guarded
    · rw [noted, kept]
      exact guarded
  · by_cases ticking : call.position = heartbeat
    · have served := beating ticking
      rw [runCall, if_neg pumping, if_pos ticking, ticking, due_from_served heartbeat timeNow beat rate served]
      have due : dueFrom heartbeat timeNow beat heartbeat = beat.timeNextUpdateuS := if_pos (Nat.le_refl _)
      rw [ticking, due] at guarded
      rw [due]
      exact guard_tick _ _ _ _ served.2 guarded
    · rw [runCall, if_neg pumping, if_neg ticking, due_from_other heartbeat timeNow beat _ ticking]
      exact guarded

theorem run_call_socket (thread : SchedulerThread) (call : Call) (other : call.position ≠ receive) :
    (runCall receive heartbeat timeNow thread call).network = thread.network := by
  rw [runCall, if_neg other]
  split <;> rfl

-- Induction over the rest of the list; position counts the entries already visited.
theorem loop_guard (distinct : receive ≠ heartbeat) (rate : beat.mTaskRateMs = 20) (tasks : List (Option Task))
    (position wake : Nat) (thread : SchedulerThread)
    (place : position ≤ heartbeat → tasks[heartbeat - position]? = some (some beat))
    (timely : position ≤ receive → NetworkManager.readSuccessful thread.network.zmqRecvSock = true →
      ∀ task, tasks[receive - position]? = some (some task) → Served timeNow task →
        timeNow ≤ dueFrom heartbeat timeNow beat receive + 480001)
    (guarded : Guard thread.received thread.external.mLastConnectionTime
      (dueFrom heartbeat timeNow beat position) timeNow) :
    Guard ((runTasks timeNow (fun _ => false) position wake tasks).calls.foldl
        (runCall receive heartbeat timeNow) thread).received
      ((runTasks timeNow (fun _ => false) position wake tasks).calls.foldl
        (runCall receive heartbeat timeNow) thread).external.mLastConnectionTime
      (dueFrom heartbeat timeNow beat (position + tasks.length)) timeNow := by
  induction tasks generalizing position wake thread with
  | nil => exact guarded
  | cons entry rest ih =>
      have length : position + (entry :: rest).length = position + 1 + rest.length := by
        simp only [List.length_cons]; omega
      have placeLater : position + 1 ≤ heartbeat → rest[heartbeat - (position + 1)]? = some (some beat) := by
        intro ahead
        have shift : heartbeat - position = heartbeat - (position + 1) + 1 := by omega
        simpa [shift] using place (by omega)
      have timelyLater : position + 1 ≤ receive →
          NetworkManager.readSuccessful thread.network.zmqRecvSock = true →
          ∀ task, rest[receive - (position + 1)]? = some (some task) → Served timeNow task →
            timeNow ≤ dueFrom heartbeat timeNow beat receive + 480001 := by
        intro ahead took task listed served
        have shift : receive - position = receive - (position + 1) + 1 := by omega
        exact timely (by omega) took task (by simpa [shift] using listed) served
      have here : ∀ task, entry = some task → position = heartbeat → task = beat := by
        intro task same beating
        have listed := place (Nat.le_of_eq beating)
        simpa [beating, same] using listed
      rw [length]
      by_cases served : ∃ task, entry = some task ∧ Served timeNow task
      · obtain ⟨task, same, due⟩ := served
        subst same
        rw [run_tasks_served timeNow (fun _ => false) position wake task rest due rfl, after_calls,
          List.foldl_append, List.foldl_cons, List.foldl_nil]
        apply ih
        · exact placeLater
        · intro ahead
          rw [run_call_socket receive heartbeat timeNow thread _ (by simp only [callOf]; omega)]
          exact timelyLater ahead
        · apply run_call_guard receive heartbeat timeNow beat distinct rate thread
          · intro beating
            exact here task rfl beating ▸ due
          · intro pumping took
            have now : position = receive := pumping
            exact timely (Nat.le_of_eq now) took task (by simp [now]) due
          · exact guarded
      · have idle : ∀ task, entry = some task → ¬ Served timeNow task :=
          fun task same due => served ⟨task, same, due⟩
        have still : dueFrom heartbeat timeNow beat (position + 1) = dueFrom heartbeat timeNow beat position := by
          apply due_from_idle
          intro beating
          have listed := place (Nat.le_of_eq beating)
          have same : entry = some beat := by simpa [beating] using listed
          exact idle beat same
        cases entry with
        | none =>
            rw [run_tasks_null, after_calls, List.nil_append]
            exact ih (position + 1) wake thread placeLater timelyLater (still ▸ guarded)
        | some task =>
            obtain ⟨later, run⟩ :=
              run_tasks_idle timeNow (fun _ => false) position wake task rest (idle task rfl)
            rw [run, after_calls, List.nil_append]
            exact ih (position + 1) later thread placeLater timelyLater (still ▸ guarded)

end Loop

section Pass

variable (receive heartbeat : Nat)

structure Scheduled (tasks : List (Option Task)) (pump beat : Task) : Prop where
  pumpListed : tasks[receive]? = some (some pump)
  pumpRate : pump.mTaskRateMs = 2
  beatListed : tasks[heartbeat]? = some (some beat)
  beatRate : beat.mTaskRateMs = 20

-- A receipt is timely if no more than 24 periods of the heartbeat task are outstanding.
def HeartbeatTimely (thread : SchedulerThread) (input : ThreadInput) : Prop :=
  ∀ pump beat, thread.scheduler.taskList[receive]? = some (some pump) →
    thread.scheduler.taskList[heartbeat]? = some (some beat) → Served input.timeNow pump →
    NetworkManager.readSuccessful (arrive thread input.arrivals).network.zmqRecvSock = true →
    input.timeNow ≤ dueFrom heartbeat input.timeNow beat receive + 480001

def WatchdogHonest (thread : SchedulerThread) (input : ThreadInput) : Prop :=
  (threadPass receive heartbeat thread input).external.isExternalControlConnected = false →
    ∀ time ∈ (threadPass receive heartbeat thread input).received, time < input.timeNow →
      500000 ≤ input.timeNow - time

def ClockRuns (thread : SchedulerThread) (input : ThreadInput) : Prop :=
  thread.scheduler.timeNow ≤ input.timeNow

instance (thread : SchedulerThread) (input : ThreadInput) :
    Decidable (WatchdogHonest receive heartbeat thread input) :=
  inferInstanceAs (Decidable (_ = false → ∀ time ∈ _, _ → _))

instance (thread : SchedulerThread) (input : ThreadInput) : Decidable (ClockRuns thread input) :=
  inferInstanceAs (Decidable (_ ≤ _))

structure WatchdogInvariant (thread : SchedulerThread) : Prop where
  scheduled : ∃ pump beat, Scheduled receive heartbeat thread.scheduler.taskList pump beat
  guarded : ∀ beat, thread.scheduler.taskList[heartbeat]? = some (some beat) →
    Guard thread.received thread.external.mLastConnectionTime beat.timeNextUpdateuS thread.scheduler.timeNow

end Pass

theorem visited_rate (timeNow : Nat) (task : Task) : (task.visited timeNow).mTaskRateMs = task.mTaskRateMs := by
  rw [Task.visited]
  split <;> rfl

theorem quiet_pass_entry (scheduler : TaskScheduler) (timeNow position : Nat) (task : Task)
    (listed : scheduler.taskList[position]? = some (some task)) :
    (scheduler.run (quietPass timeNow)).taskList[position]? = some (some (task.visited timeNow)) := by
  obtain ⟨reached, shape⟩ := run_tasks_shape timeNow (fun _ => false) scheduler.taskList 0 (2 ^ 64 - 1)
  have all := pass_shape_quiet _ _ _ _ _ shape (fun _ _ _ _ => rfl)
  have entry := pass_shape_entry _ _ _ _ _ _ shape position task listed
  rw [if_pos (all ▸ (List.getElem?_eq_some_iff.mp listed).1)] at entry
  exact entry

theorem thread_pass_guard (receive heartbeat : Nat) (distinct : receive ≠ heartbeat) (thread : SchedulerThread)
    (input : ThreadInput) (pump beat : Task)
    (scheduled : Scheduled receive heartbeat thread.scheduler.taskList pump beat)
    (later : ClockRuns thread input) (timely : HeartbeatTimely receive heartbeat thread input)
    (guarded : Guard thread.received thread.external.mLastConnectionTime beat.timeNextUpdateuS
      thread.scheduler.timeNow) :
    Guard (threadPass receive heartbeat thread input).received
      (threadPass receive heartbeat thread input).external.mLastConnectionTime
      (beat.visited input.timeNow).timeNextUpdateuS input.timeNow := by
  have listed := scheduled.beatListed
  have within : heartbeat < thread.scheduler.taskList.length := (List.getElem?_eq_some_iff.mp listed).1
  have start : dueFrom heartbeat input.timeNow beat 0 = beat.timeNextUpdateuS := if_pos (Nat.zero_le _)
  have finish : dueFrom heartbeat input.timeNow beat (0 + thread.scheduler.taskList.length) =
      (beat.visited input.timeNow).timeNextUpdateuS := if_neg (by omega)
  rw [← finish]
  apply loop_guard receive heartbeat input.timeNow beat distinct scheduled.beatRate thread.scheduler.taskList 0
    (2 ^ 64 - 1) (arrive thread input.arrivals)
  · intro _
    exact listed
  · intro _ took task present served
    exact timely task beat present listed served took
  · rw [start]
    exact guard_later _ _ _ _ _ later guarded

theorem watchdog_pass (receive heartbeat : Nat) (distinct : receive ≠ heartbeat) (thread : SchedulerThread)
    (input : ThreadInput) (kept : WatchdogInvariant receive heartbeat thread)
    (met : ClockRuns thread input ∧ HeartbeatTimely receive heartbeat thread input) :
    WatchdogHonest receive heartbeat thread input ∧
      WatchdogInvariant receive heartbeat (threadPass receive heartbeat thread input) := by
  obtain ⟨pump, beat, scheduled⟩ := kept.scheduled
  have guarded := thread_pass_guard receive heartbeat distinct thread input pump beat scheduled met.1 met.2
    (kept.guarded beat scheduled.beatListed)
  have pumpNext := quiet_pass_entry thread.scheduler input.timeNow receive pump scheduled.pumpListed
  have beatNext := quiet_pass_entry thread.scheduler input.timeNow heartbeat beat scheduled.beatListed
  refine ⟨?_, ⟨pump.visited input.timeNow, beat.visited input.timeNow, ?_⟩, ?_⟩
  · intro disconnected time member _
    have zero : (threadPass receive heartbeat thread input).external.mLastConnectionTime = 0 := by
      simpa [ExternalControlManager.isExternalControlConnected] using disconnected
    have expired := guarded.expired zero time member
    omega
  · exact ⟨pumpNext, (visited_rate _ _).trans scheduled.pumpRate, beatNext,
      (visited_rate _ _).trans scheduled.beatRate⟩
  · intro next present
    have same : beat.visited input.timeNow = next := by
      simpa using beatNext.symm.trans present
    rw [← same]
    exact guarded

def startList (receive heartbeat : Nat) (taskList : List (Option Task)) : Prop :=
  Scheduled receive heartbeat taskList (.fresh 2) (.fresh 20)

theorem start_invariant (receive heartbeat : Nat) (taskList : List (Option Task))
    (start : startList receive heartbeat taskList) :
    WatchdogInvariant receive heartbeat (startThread taskList) := by
  refine ⟨⟨_, _, start⟩, fun beat _ => ⟨?_, ?_, ?_⟩⟩ <;> simp [startThread]

theorem watchdog_honest_of_timely_heartbeat (receive heartbeat : Nat) (distinct : receive ≠ heartbeat)
    (taskList : List (Option Task)) (start : startList receive heartbeat taskList) (passes : List ThreadInput)
    (clock : Runs.EachStep (threadPass receive heartbeat) ClockRuns (startThread taskList) passes)
    (timely : Runs.EachStep (threadPass receive heartbeat) (HeartbeatTimely receive heartbeat)
      (startThread taskList) passes) :
    Runs.EachStep (threadPass receive heartbeat) (WatchdogHonest receive heartbeat) (startThread taskList)
      passes :=
  Runs.each_step_of_invariant (threadPass receive heartbeat) (WatchdogInvariant receive heartbeat)
    (fun thread input => ClockRuns thread input ∧ HeartbeatTimely receive heartbeat thread input)
    (WatchdogHonest receive heartbeat) (watchdog_pass receive heartbeat distinct) passes _
    (start_invariant receive heartbeat taskList start) (Runs.each_step_and clock timely)

def robotTasks : List (Option Task) := [some (.fresh 2), some (.fresh 20)]

def motorMessage : Arrival := .datagram ⟨"motorcontrol", [10, 0]⟩

theorem robot_tasks_start : startList 0 1 robotTasks := ⟨rfl, rfl, rfl, rfl⟩

theorem timely_of_early_or_quiet (receive heartbeat : Nat) (thread : SchedulerThread) (input : ThreadInput)
    (met : input.timeNow ≤ 480001 ∨
      NetworkManager.readSuccessful (arrive thread input.arrivals).network.zmqRecvSock = false) :
    HeartbeatTimely receive heartbeat thread input := by
  intro pump beat _ _ _ took
  obtain early | quiet := met
  · exact Nat.le_add_left_of_le early
  · exact absurd (took.symm.trans quiet) (by decide)

-- Heartbeats are outstanding at the last message, and the next 50 of them come without one.
def quietAfterBoot : List ThreadInput :=
  [⟨1000, []⟩, ⟨400000, [motorMessage]⟩, ⟨480001, [motorMessage]⟩] ++
    (List.range 50).map fun k => ⟨500001 + 20000 * k, []⟩

theorem watchdog_honest_after_boot :
    Runs.EachStep (threadPass 0 1) (WatchdogHonest 0 1) (startThread robotTasks) quietAfterBoot ∧
      (Runs.runSteps (threadPass 0 1) (startThread robotTasks) quietAfterBoot).external.isExternalControlConnected = false := by
  refine ⟨?_, by decide +kernel⟩
  refine watchdog_honest_of_timely_heartbeat 0 1 (by decide) robotTasks robot_tasks_start _ (by decide +kernel) ?_
  exact Runs.each_step_mono _ _ _ (timely_of_early_or_quiet 0 1) _ _ (by decide +kernel)

-- The tasks are new a second after boot: the heartbeat task is then due 50 times in a row,
-- and the scheduler passes that catch up take 50 us here.
def catchUpPasses : List ThreadInput :=
  ⟨1000000, [motorMessage]⟩ :: (List.range 49).map (fun k => ⟨1000001 + k, []⟩)

theorem watchdog_fires_early :
    ¬ ∀ (receive heartbeat : Nat), receive ≠ heartbeat → ∀ taskList, startList receive heartbeat taskList →
      ∀ passes, Runs.EachStep (threadPass receive heartbeat) ClockRuns (startThread taskList) passes →
        Runs.EachStep (threadPass receive heartbeat) (WatchdogHonest receive heartbeat) (startThread taskList)
          passes := by
  intro always
  have honest := always 0 1 (by decide) robotTasks robot_tasks_start catchUpPasses (by decide +kernel)
  revert honest
  decide +kernel

end RioPassthru
