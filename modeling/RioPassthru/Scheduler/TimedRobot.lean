import Mathlib.Algebra.Order.Field.Basic
import Mathlib.Algebra.Order.Floor.Semiring
import Mathlib.Data.List.Nodup
import Mathlib.Data.Rat.Floor
import Mathlib.Tactic.FieldSimp
import Mathlib.Tactic.Linarith
import Mathlib.Tactic.NormNum
import RioPassthru.Lib.Agenda
import RioPassthru.Lib.Runs

set_option autoImplicit false

namespace RioPassthru

variable {Func : Type}

-- Times are exact here, where the source has doubles; only the alarm is cut to whole microseconds.
structure Callback (Func : Type) where
  func : Func
  period : ℚ
  expirationTime : ℚ
  positive : 0 < period

structure Registration (Func : Type) where
  func : Func
  period : ℚ
  offset : ℚ
  timestamp : ℚ
  positive : 0 < period

namespace Callback

def create (startTime : ℚ) (registration : Registration Func) : Callback Func where
  func := registration.func
  period := registration.period
  expirationTime := startTime + registration.offset +
    ⌊(registration.timestamp - startTime) / registration.period⌋ * registration.period + registration.period
  positive := registration.positive

def advance (callback : Callback Func) : Callback Func :=
  { callback with expirationTime := callback.expirationTime + callback.period }

-- static_cast<uint64_t>(expirationTime * 1e6)
def alarm (callback : Callback Func) : Nat := ⌊callback.expirationTime * 10 ^ 6⌋₊

def slot (callback : Callback Func) (turn : Nat) : Callback Func :=
  { callback with expirationTime := callback.expirationTime + turn * callback.period }

-- lastWake is the time of the last alarm, none before the first one.
def Due (lastWake : Option Nat) (callback : Callback Func) : Prop := ∃ time ∈ lastWake, callback.alarm ≤ time

instance (lastWake : Option Nat) : DecidablePred (@Due Func lastWake) := fun callback =>
  match lastWake with
  | none => .isFalse fun ⟨_, known, _⟩ => nomatch known
  | some time => decidable_of_iff (callback.alarm ≤ time) ⟨fun due => ⟨time, rfl, due⟩, fun ⟨_, same, due⟩ => by
      cases same
      exact due⟩

def runsBy (lastWake : Option Nat) (callback : Callback Func) : Nat :=
  match lastWake with
  | none => 0
  | some time => ⌈((time + 1) / 10 ^ 6 - callback.expirationTime) / callback.period⌉₊

end Callback

-- The constructor registers LoopFunc, so the queue is never empty.
structure TimedRobot (Func : Type) where
  m_startTime : ℚ
  m_callbacks : List (Callback Func)
  registered : m_callbacks ≠ []

namespace TimedRobot

def addPeriodic (robot : TimedRobot Func) (registration : Registration Func) : TimedRobot Func where
  m_startTime := robot.m_startTime
  m_callbacks := .create robot.m_startTime registration :: robot.m_callbacks
  registered := List.cons_ne_nil _ _

def create (startTime : ℚ) (loopFunc : Registration Func) : TimedRobot Func where
  m_startTime := startTime
  m_callbacks := [.create startTime { loopFunc with offset := 0 }]
  registered := List.cons_ne_nil _ _

end TimedRobot

structure Wait where
  curTime : Nat
  status : Int
deriving DecidableEq, Repr

def Wait.Ended (wait : Wait) : Prop := wait.curTime = 0 ∨ wait.status ≠ 0

instance (wait : Wait) : Decidable wait.Ended := inferInstanceAs (Decidable (_ ∨ _))

def lastWake : Option Nat → List Wait → Option Nat
  | last, [] => last
  | last, wait :: rest => if wait.Ended then last else lastWake (some wait.curTime) rest

namespace Callback

theorem advance_later (callback : Callback Func) : callback.expirationTime ≤ callback.advance.expirationTime :=
  le_add_of_nonneg_right callback.positive.le

theorem advance_slot (callback : Callback Func) (turn : Nat) : advance^[turn] callback = callback.slot turn := by
  induction turn with
  | zero => rw [Function.iterate_zero_apply, slot, Nat.cast_zero, zero_mul, add_zero]
  | succ turn ih =>
      rw [Function.iterate_succ_apply', ih, advance, slot, slot, Nat.cast_succ, add_one_mul, add_assoc]

theorem alarm_le_iff (callback : Callback Func) (time : Nat) :
    callback.alarm ≤ time ↔ callback.expirationTime < (time + 1) / 10 ^ 6 := by
  rw [alarm, ← Nat.lt_add_one_iff, Nat.floor_lt' (Nat.succ_ne_zero time), lt_div_iff₀ (by norm_num), Nat.cast_succ]

theorem due_of_earlier (lastWake : Option Nat) (earlier later : Callback Func)
    (order : earlier.expirationTime ≤ later.expirationTime) (due : Due lastWake later) : Due lastWake earlier := by
  obtain ⟨time, known, due⟩ := due
  exact ⟨time, known, (alarm_le_iff earlier time).mpr (order.trans_lt ((alarm_le_iff later time).mp due))⟩

theorem runs_by_iff (lastWake : Option Nat) (callback : Callback Func) (turn : Nat) :
    turn < callback.runsBy lastWake ↔ Due lastWake (advance^[turn] callback) := by
  cases lastWake with
  | none => exact ⟨fun none => absurd none (Nat.not_lt_zero turn), fun ⟨_, known, _⟩ => nomatch known⟩
  | some time =>
      have bound : turn < callback.runsBy (some time) ↔ (callback.slot turn).alarm ≤ time := by
        rw [alarm_le_iff, runsBy, Nat.lt_ceil, lt_div_iff₀ callback.positive, lt_sub_iff_add_lt', slot]
      rw [bound, advance_slot]
      exact ⟨fun due => ⟨time, rfl, due⟩, fun ⟨_, same, due⟩ => by
        cases same
        exact due⟩

theorem runs_by_falls (lastWake : Option Nat) (callback : Callback Func) (due : Due lastWake callback) :
    callback.advance.runsBy lastWake < callback.runsBy lastWake := by
  have first : 0 < callback.runsBy lastWake := (runs_by_iff lastWake callback 0).mpr due
  by_contra more
  have turn := (runs_by_iff lastWake callback.advance (callback.runsBy lastWake - 1)).mp (by omega)
  rw [← Function.iterate_succ_apply, Nat.succ_eq_add_one, Nat.sub_add_cancel first] at turn
  exact lt_irrefl _ ((runs_by_iff lastWake callback _).mpr turn)

end Callback

open Agenda (PriorityQueue)

abbrev CallbackQueue (Func : Type) := PriorityQueue (@Callback.expirationTime Func)

-- The agenda's log are the callbacks as they were when their func was called.
structure Competition (Func : Type) where
  agenda : Agenda (Callback Func)
  ended : Bool

namespace Competition

def start (callbacks : List (Callback Func)) : Competition Func := ⟨⟨callbacks, []⟩, false⟩

def catchUp (queue : CallbackQueue Func) (curTime : Nat) : Agenda (Callback Func) → Agenda (Callback Func) :=
  Agenda.drain queue .advance (Callback.Due (some curTime)) (Callback.runsBy (some curTime))
    (Callback.runs_by_falls (some curTime))

-- One turn of the while (true) loop; the callback popped is not put back when the wait ends it.
def turn (queue : CallbackQueue Func) (competition : Competition Func) (wait : Wait) : Competition Func :=
  if competition.ended then competition
  else
    match queue.pop competition.agenda.contents with
    | none => competition
    | some (_, rest) =>
        if wait.Ended then ⟨{ competition.agenda with contents := rest }, true⟩
        else ⟨catchUp queue wait.curTime (Agenda.serve queue .advance competition.agenda), false⟩

-- The notifier does not fire before the time it was set to.
def Granted (queue : CallbackQueue Func) (competition : Competition Func) (wait : Wait) : Prop :=
  wait.Ended ∨ ∀ first ∈ queue.top competition.agenda.contents, first.alarm ≤ wait.curTime

end Competition

def TimedRobot.startCompetition (queue : CallbackQueue Func) (robot : TimedRobot Func) (waits : List Wait) :
    List (Callback Func) :=
  (Runs.runSteps (Competition.turn queue) (.start robot.m_callbacks) waits).agenda.log

def TimedRobot.Granted (queue : CallbackQueue Func) (robot : TimedRobot Func) (waits : List Wait) : Prop :=
  Runs.EachStep (Competition.turn queue) (Competition.Granted queue) (.start robot.m_callbacks) waits

def schedule (callbacks : List (Callback Func)) (lastWake : Option Nat) : List (Callback Func) :=
  callbacks.flatMap (fun callback => (List.range (callback.runsBy lastWake)).map callback.slot)

namespace Competition

variable (queue : CallbackQueue Func)

theorem turn_cases (competition : Competition Func) (wait : Wait) :
    competition.turn queue wait = competition ∧ (competition.ended = true ∨ competition.agenda.contents = []) ∨
      competition.ended = false ∧ wait.Ended ∧ (competition.turn queue wait).ended = true ∧
        (competition.turn queue wait).agenda.log = competition.agenda.log ∨
      competition.ended = false ∧ ¬wait.Ended ∧ (∃ first, queue.top competition.agenda.contents = some first) ∧
        competition.turn queue wait =
          ⟨catchUp queue wait.curTime (Agenda.serve queue .advance competition.agenda), false⟩ := by
  rw [turn]
  split
  · rename_i ended
    exact .inl ⟨rfl, .inl ended⟩
  · rename_i running
    have running := Bool.eq_false_iff.mpr running
    split
    · rename_i nothing
      exact .inl ⟨rfl, .inr (queue.empty _ nothing)⟩
    · rename_i first rest popped
      split
      · rename_i stop
        exact .inr (.inl ⟨running, stop, rfl, rfl⟩)
      · rename_i goes
        exact .inr (.inr ⟨running, goes, ⟨first, queue.top_of_pop _ first rest popped⟩, rfl⟩)

theorem start_served (callbacks : List (Callback Func)) :
    Agenda.Served Callback.expirationTime Callback.advance (Callback.Due none) callbacks (start callbacks).agenda where
  ordered := ⟨.nil, fun _ member => nomatch member⟩
  progress := ⟨_, Agenda.progress_start Callback.advance callbacks⟩
  before := fun _ member => nomatch member
  after := fun _ _ ⟨_, known, _⟩ => nomatch known

def OnTime (callbacks : List (Callback Func)) (last : Option Nat) (competition : Competition Func) : Prop :=
  Agenda.Served Callback.expirationTime Callback.advance (Callback.Due last) callbacks competition.agenda

def LogKept (callbacks : List (Callback Func)) (last : Option Nat) (log : List (Callback Func)) : Prop :=
  log.Pairwise (fun earlier later => earlier.expirationTime ≤ later.expirationTime) ∧
    log.Perm (schedule callbacks last)

theorem on_time_log (callbacks : List (Callback Func)) (last : Option Nat) (competition : Competition Func)
    (onTime : OnTime callbacks last competition) : LogKept callbacks last competition.agenda.log := by
  refine ⟨onTime.ordered.sorted, ?_⟩
  refine (Agenda.served_log Callback.advance (Callback.Due last) (Callback.runsBy last)
    (fun callback turn => Callback.runs_by_iff last callback turn) callbacks competition.agenda onTime).trans ?_
  refine .of_eq (List.flatMap_congr fun callback _ => ?_)
  exact List.map_congr_left fun turn _ => callback.advance_slot turn

theorem turns_ended (competition : Competition Func) (waits : List Wait) (ended : competition.ended = true) :
    Runs.runSteps (turn queue) competition waits = competition := by
  induction waits with
  | nil => rfl
  | cons wait rest ih => rw [Runs.runSteps, turn, if_pos ended, ih]

-- An alarm that was not due at the last wake is later than it, so nothing is run a second time.
theorem run_log_kept (callbacks : List (Callback Func)) (registered : callbacks ≠ []) (waits : List Wait)
    (last : Option Nat) (competition : Competition Func) (running : competition.ended = false)
    (onTime : OnTime callbacks last competition)
    (granted : Runs.EachStep (turn queue) (Granted queue) competition waits) :
    LogKept callbacks (lastWake last waits) (Runs.runSteps (turn queue) competition waits).agenda.log := by
  induction waits generalizing last competition with
  | nil => exact on_time_log callbacks last competition onTime
  | cons wait rest ih =>
      obtain ⟨_, ended | nothing⟩ | ⟨_, stop, ended, log⟩ | ⟨_, goes, ⟨first, top⟩, same⟩ :=
        turn_cases queue competition wait
      · rw [running] at ended
        cases ended
      · obtain ⟨turns, progress⟩ := onTime.progress
        have length := progress.length_eq
        rw [nothing, List.length_nil] at length
        exact absurd (List.length_eq_zero_iff.mp length.symm) registered
      · rw [Runs.runSteps, lastWake, if_pos stop, turns_ended queue _ rest ended, log]
        exact on_time_log callbacks last competition onTime
      · rw [Runs.runSteps, lastWake, if_neg goes]
        have ready : Agenda.Ready queue (Callback.Due (some wait.curTime)) competition.agenda :=
          ⟨first, top, wait.curTime, rfl, granted.1.resolve_left goes first top⟩
        have next : OnTime callbacks (some wait.curTime) (competition.turn queue wait) := by
          rw [OnTime, same]
          exact Agenda.drained_served queue _ _ _ (Callback.runs_by_falls (some wait.curTime))
            (Callback.due_of_earlier (some wait.curTime)) Callback.advance_later callbacks competition.agenda onTime.ordered onTime.progress ready
        exact ih (some wait.curTime) (competition.turn queue wait) (by rw [same]) next granted.2

end Competition

-- Whatever the queue does with equal times: what has been called by the last wake are, in the order of
-- their times, all the times of all the callbacks that have come.
theorem TimedRobot.callbacks_keep_schedule (queue : CallbackQueue Func) (robot : TimedRobot Func) (waits : List Wait)
    (granted : robot.Granted queue waits) :
    (robot.startCompetition queue waits).Pairwise (fun earlier later => earlier.expirationTime ≤ later.expirationTime) ∧
      (robot.startCompetition queue waits).Perm (schedule robot.m_callbacks (lastWake none waits)) :=
  Competition.run_log_kept queue robot.m_callbacks robot.registered waits none _ rfl
    (Competition.start_served robot.m_callbacks) granted

theorem TimedRobot.callbacks_keep_schedule_one_wake :
    ((TimedRobot.create 1 ⟨"LoopFunc", 1 / 50, 0, 1, by norm_num⟩).startCompetition
        (PriorityQueue.ofList Callback.expirationTime) [⟨1020003, 0⟩]).Perm
      (schedule (TimedRobot.create 1 ⟨"LoopFunc", 1 / 50, 0, 1, by norm_num⟩).m_callbacks (some 1020003)) :=
  (TimedRobot.callbacks_keep_schedule (PriorityQueue.ofList Callback.expirationTime)
    (TimedRobot.create 1 ⟨"LoopFunc", 1 / 50, 0, 1, by norm_num⟩) [⟨1020003, 0⟩]
    ⟨.inr fun first top => by
      cases top
      norm_num [Callback.alarm, Callback.create], trivial⟩).2

namespace TimedRobot

def allRegistrations (loopFunc : Registration Func) (registrations : List (Registration Func)) :
    List (Registration Func) :=
  { loopFunc with offset := 0 } :: registrations

def build (startTime : ℚ) (loopFunc : Registration Func) (registrations : List (Registration Func)) : TimedRobot Func :=
  registrations.foldl addPeriodic (create startTime loopFunc)

theorem build_callbacks (startTime : ℚ) (loopFunc : Registration Func) (registrations : List (Registration Func)) :
    (build startTime loopFunc registrations).m_callbacks =
      ((allRegistrations loopFunc registrations).map (Callback.create startTime)).reverse := by
  have kept : ∀ robot : TimedRobot Func, robot.m_startTime = startTime →
      (registrations.foldl addPeriodic robot).m_callbacks =
        (registrations.map (Callback.create startTime)).reverse ++ robot.m_callbacks := by
    induction registrations with
    | nil => exact fun robot _ => rfl
    | cons registration rest ih =>
        intro robot start
        rw [List.foldl_cons, ih (robot.addPeriodic registration) start, List.map_cons, List.reverse_cons, List.append_assoc]
        rw [← start]
        rfl
  rw [build, kept _ rfl, allRegistrations, List.map_cons, List.reverse_cons]
  rfl

end TimedRobot

theorem create_on_grid (startTime : ℚ) (registration : Registration Func) (turn : Nat) :
    (∃ step : ℤ, ((Callback.create startTime registration).slot turn).expirationTime =
      startTime + registration.offset + step * registration.period) ∧
    registration.timestamp + registration.offset < ((Callback.create startTime registration).slot turn).expirationTime := by
  have grid : ((Callback.create startTime registration).slot turn).expirationTime = startTime + registration.offset +
      ((⌊(registration.timestamp - startTime) / registration.period⌋ + 1 + turn : ℤ) : ℚ) * registration.period := by
    rw [Callback.slot, Callback.create]
    push_cast
    ring
  refine ⟨⟨_, grid⟩, ?_⟩
  have past := Int.lt_floor_add_one ((registration.timestamp - startTime) / registration.period)
  rw [div_lt_iff₀ registration.positive] at past
  have turns : 0 ≤ turn * registration.period := mul_nonneg (Nat.cast_nonneg turn) registration.positive.le
  rw [grid]
  push_cast
  linarith

theorem TimedRobot.run_on_grid (queue : CallbackQueue Func) (startTime : ℚ) (loopFunc : Registration Func)
    (registrations : List (Registration Func)) (waits : List Wait)
    (granted : (TimedRobot.build startTime loopFunc registrations).Granted queue waits) (run : Callback Func)
    (ran : run ∈ (TimedRobot.build startTime loopFunc registrations).startCompetition queue waits) :
    ∃ registration ∈ allRegistrations loopFunc registrations, run.func = registration.func ∧
      (∃ step : ℤ, run.expirationTime = startTime + registration.offset + step * registration.period) ∧
      registration.timestamp + registration.offset < run.expirationTime := by
  have scheduled := (Competition.run_log_kept queue _ (TimedRobot.registered _) waits none _ rfl
    (Competition.start_served _) granted).2.mem_iff.mp ran
  obtain ⟨callback, registered, inside⟩ := List.mem_flatMap.mp scheduled
  obtain ⟨turn, _, rfl⟩ := List.mem_map.mp inside
  rw [TimedRobot.build_callbacks, List.mem_reverse] at registered
  obtain ⟨registration, member, rfl⟩ := List.mem_map.mp registered
  exact ⟨registration, member, rfl, create_on_grid startTime registration turn⟩

def KeptApart (microseconds : Nat) (one other : Func) (runs : List (Callback Func)) : Prop :=
  ∀ earlier ∈ runs, ∀ later ∈ runs, earlier.func = one → later.func = other →
    (microseconds : ℤ) ≤ |(later.alarm : ℤ) - earlier.alarm|

theorem floors_apart (smaller larger : ℚ) (distance : Nat) (nonneg : 0 ≤ smaller) (apart : smaller + distance ≤ larger) :
    (distance : ℤ) ≤ (⌊larger⌋₊ : ℤ) - ⌊smaller⌋₊ := by
  have floors := Nat.floor_mono apart
  rw [Nat.floor_add_natCast nonneg] at floors
  omega

theorem Callback.alarms_apart (earlier later : Callback Func) (microseconds : Nat) (first : 0 ≤ earlier.expirationTime)
    (second : 0 ≤ later.expirationTime)
    (apart : (microseconds : ℚ) / 10 ^ 6 ≤ |later.expirationTime - earlier.expirationTime|) :
    (microseconds : ℤ) ≤ |(later.alarm : ℤ) - earlier.alarm| := by
  rw [div_le_iff₀ (by norm_num)] at apart
  rw [alarm, alarm]
  obtain order | order := le_total earlier.expirationTime later.expirationTime
  · rw [abs_of_nonneg (sub_nonneg.mpr order)] at apart
    exact (floors_apart _ _ microseconds (by positivity) (by linarith)).trans (le_abs_self _)
  · rw [abs_of_nonpos (sub_nonpos.mpr order)] at apart
    rw [abs_sub_comm]
    exact (floors_apart _ _ microseconds (by positivity) (by linarith)).trans (le_abs_self _)

theorem TimedRobot.time_slots_stay_apart (queue : CallbackQueue Func) (startTime : ℚ) (loopFunc : Registration Func)
    (registrations : List (Registration Func)) (waits : List Wait)
    (granted : (TimedRobot.build startTime loopFunc registrations).Granted queue waits)
    (distinct : ((allRegistrations loopFunc registrations).map Registration.func).Nodup)
    (one other : Registration Func) (first : one ∈ allRegistrations loopFunc registrations)
    (second : other ∈ allRegistrations loopFunc registrations) (period : one.period = other.period)
    (one_after_zero : 0 ≤ one.timestamp + one.offset) (other_after_zero : 0 ≤ other.timestamp + other.offset)
    (microseconds : Nat) (apart : ∀ step : ℤ, (microseconds : ℚ) / 10 ^ 6 ≤ |other.offset - one.offset + step * one.period|) :
    KeptApart microseconds one.func other.func
      ((TimedRobot.build startTime loopFunc registrations).startCompetition queue waits) := by
  intro earlier ran later ran_later of_one of_other
  have named := List.inj_on_of_nodup_map distinct
  obtain ⟨found, member, func, ⟨step, time⟩, past⟩ :=
    TimedRobot.run_on_grid queue startTime loopFunc registrations waits granted earlier ran
  obtain rfl := named member first (func.symm.trans of_one)
  obtain ⟨found_later, member_later, func_later, ⟨step_later, time_later⟩, past_later⟩ :=
    TimedRobot.run_on_grid queue startTime loopFunc registrations waits granted later ran_later
  obtain rfl := named member_later second (func_later.symm.trans of_other)
  refine Callback.alarms_apart earlier later microseconds (one_after_zero.trans past.le) (other_after_zero.trans past_later.le) ?_
  refine (apart (step_later - step)).trans (le_of_eq (congrArg abs ?_))
  rw [time, time_later, ← period]
  push_cast
  ring

theorem TimedRobot.time_slots_stay_apart_half_period :
    KeptApart 10000 "LoopFunc" "report"
      ((TimedRobot.build 1 ⟨"LoopFunc", 1 / 50, 0, 1, by norm_num⟩
          [⟨"report", 1 / 50, 1 / 100, 2, by norm_num⟩]).startCompetition
        (PriorityQueue.ofList Callback.expirationTime) [⟨3000000, 0⟩]) := by
  refine TimedRobot.time_slots_stay_apart (PriorityQueue.ofList Callback.expirationTime) 1
    ⟨"LoopFunc", 1 / 50, 0, 1, by norm_num⟩ [⟨"report", 1 / 50, 1 / 100, 2, by norm_num⟩] [⟨3000000, 0⟩]
    ⟨.inr ?_, trivial⟩ (by decide) ⟨"LoopFunc", 1 / 50, 0, 1, by norm_num⟩ ⟨"report", 1 / 50, 1 / 100, 2, by norm_num⟩
    List.mem_cons_self (List.mem_cons_of_mem _ List.mem_cons_self) rfl (by norm_num) (by norm_num) 10000 ?_
  · intro first top
    have present := PriorityQueue.top_mem _ _ first top
    rw [Competition.start, build_callbacks] at present
    simp only [allRegistrations, List.map_cons, List.map_nil, List.mem_reverse, List.mem_cons, List.not_mem_nil,
      or_false] at present
    obtain rfl | rfl := present <;> norm_num [Callback.alarm, Callback.create]
  · intro step
    have odd : (1 : ℤ) ≤ |1 + 2 * step| := Int.one_le_abs (by omega)
    have odd : (1 : ℚ) ≤ |1 + 2 * (step : ℚ)| := by exact_mod_cast odd
    calc (10000 : ℕ) / 10 ^ 6 ≤ (1 / 100 : ℚ) * |1 + 2 * (step : ℚ)| := by
            push_cast
            linarith
      _ = |1 / 100 * (1 + 2 * (step : ℚ))| := by rw [abs_mul, abs_of_pos (by norm_num : (0 : ℚ) < 1 / 100)]
      _ = |(1 / 100 - 0 : ℚ) + (step : ℚ) * (1 / 50)| := congrArg abs (by ring)

end RioPassthru
