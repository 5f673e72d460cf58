import RioPassthru.Failover.Robot

set_option autoImplicit false

namespace RioPassthru

structure DSControlWord where
  isDisabled : Bool
  isAutonomous : Bool
  isTeleop : Bool
  isTest : Bool
deriving DecidableEq, Repr

def DSControlWord.mode (word : DSControlWord) : Option Mode :=
  if word.isDisabled then some .kDisabled
  else if word.isAutonomous then some .kAutonomous
  else if word.isTeleop then some .kTeleop
  else if word.isTest then some .kTest
  else none

-- setLiveWindow is LiveWindow::SetEnabled with the actuator widgets of Shuffleboard.
inductive BaseCall where
  | init (mode : Mode)
  | periodic (mode : Mode)
  | exit (mode : Mode)
  | robotPeriodic
  | setLiveWindow (enabled : Bool)
deriving DecidableEq, Repr

structure IterativeRobotBase where
  lastMode : Option Mode
  lwEnabledInTest : Bool
deriving DecidableEq, Repr

namespace IterativeRobotBase

variable (base : IterativeRobotBase)

def exitCalls : Option Mode → List BaseCall
  | some .kTest => if base.lwEnabledInTest then [.setLiveWindow false, .exit .kTest] else [.exit .kTest]
  | some mode => [.exit mode]
  | none => []

def initCalls : Option Mode → List BaseCall
  | some .kTest => if base.lwEnabledInTest then [.setLiveWindow true, .init .kTest] else [.init .kTest]
  | some mode => [.init mode]
  | none => []

def changeCalls (mode : Option Mode) : List BaseCall :=
  if base.lastMode ≠ mode then base.exitCalls base.lastMode ++ base.initCalls mode else []

def periodicCalls : Option Mode → List BaseCall
  | some mode => [.periodic mode]
  | none => []

def loopFunc (word : DSControlWord) : IterativeRobotBase × List BaseCall :=
  ({ base with lastMode := word.mode }, base.changeCalls word.mode ++ periodicCalls word.mode ++ [.robotPeriodic])

def start (lwEnabledInTest : Bool) : IterativeRobotBase := ⟨none, lwEnabledInTest⟩

end IterativeRobotBase

-- What a subclass may rely on: the mode it is in, and whether LiveWindow is enabled.
structure ModePhase where
  active : Option Mode
  liveWindow : Bool
deriving DecidableEq, Repr

-- A mode is entered when none is active and left before the next; LiveWindow changes just before Test does.
def ModePhase.next (phase : ModePhase) : BaseCall → Option ModePhase
  | .init mode => if phase.active = none then some { phase with active := some mode } else none
  | .periodic mode => if phase.active = some mode then some phase else none
  | .exit mode => if phase.active = some mode then some { phase with active := none } else none
  | .robotPeriodic => some phase
  | .setLiveWindow true => if phase.active = none ∧ phase.liveWindow = false then some ⟨none, true⟩ else none
  | .setLiveWindow false => if phase = ⟨some .kTest, true⟩ then some ⟨some .kTest, false⟩ else none

namespace IterativeRobotBase

variable (base : IterativeRobotBase)

def phase : ModePhase := ⟨base.lastMode, decide (base.lastMode = some .kTest) && base.lwEnabledInTest⟩

theorem exit_calls_accepted : (base.exitCalls base.lastMode).foldlM ModePhase.next base.phase = some ⟨none, false⟩ := by
  obtain ⟨last, enabled⟩ := base
  cases last with
  | none => rfl
  | some mode => cases mode <;> cases enabled <;> rfl

theorem init_calls_accepted (mode : Option Mode) :
    (base.initCalls mode).foldlM ModePhase.next ⟨none, false⟩ = some { base with lastMode := mode }.phase := by
  obtain ⟨last, enabled⟩ := base
  cases mode with
  | none => rfl
  | some mode => cases mode <;> cases enabled <;> rfl

theorem change_calls_accepted (mode : Option Mode) :
    (base.changeCalls mode).foldlM ModePhase.next base.phase = some { base with lastMode := mode }.phase := by
  rw [changeCalls]
  split
  · rw [List.foldlM_append, exit_calls_accepted]
    exact init_calls_accepted base mode
  · rename_i same
    rw [← not_not.mp same]
    rfl

theorem loop_func_accepted (word : DSControlWord) :
    (base.loopFunc word).2.foldlM ModePhase.next base.phase = some (base.loopFunc word).1.phase := by
  simp only [loopFunc, List.foldlM_append, change_calls_accepted, Option.bind_eq_bind, Option.bind_some]
  cases word.mode with
  | none => rfl
  | some mode => simp [periodicCalls, ModePhase.next, phase]

-- So every mode is left before the next is entered, is entered before its periodic calls, and LiveWindow
-- is enabled in Test alone.
theorem callbacks_follow_modes (lwEnabledInTest : Bool) (words : List DSControlWord) :
    (Runs.runLog loopFunc (start lwEnabledInTest) words).2.flatten.foldlM ModePhase.next ⟨none, false⟩ =
      some (Runs.runLog loopFunc (start lwEnabledInTest) words).1.phase :=
  Runs.run_log_accepted loopFunc ModePhase.next phase loop_func_accepted words (start lwEnabledInTest)

end IterativeRobotBase

namespace Robot

variable (sizes : EntrySizes) (math : SwerveMath)

-- Robot's overrides; it leaves the Exit callbacks empty.
def onCall (input : LoopInput) (run : LoopRun) : BaseCall → LoopRun
  | .init mode => { run with robot := { run.robot with controlMode := mode } }
  | .periodic mode => { run with robot := modePeriodic math { input with mode := mode } run.robot }
  | .robotPeriodic =>
      let periodic := robotPeriodic sizes math input run.robot
      ⟨periodic.robot, run.published ++ periodic.published, run.reports ++ periodic.reports⟩
  | .exit _ => run
  | .setLiveWindow _ => run

def callbackTurn (state : IterativeRobotBase × Robot) (turn : DSControlWord × LoopInput) :
    (IterativeRobotBase × Robot) × (List FailoverMessage × List String) :=
  let next := state.1.loopFunc turn.1
  let run := next.2.foldl (onCall sizes math turn.2) ⟨state.2, [], []⟩
  ((next.1, { run.robot with lastMode := next.1.lastMode }), (run.published, run.reports))

def loopTurn (robot : Robot) (input : LoopInput) : Robot × (List FailoverMessage × List String) :=
  let run := loopFunc sizes math robot input
  (run.robot, (run.published, run.reports))

theorem mode_periodic_last_mode (input : LoopInput) (robot : Robot) (last : Option Mode) :
    modePeriodic math input { robot with lastMode := last } = { modePeriodic math input robot with lastMode := last } := by
  rw [modePeriodic, modePeriodic]
  split
  · split <;> rfl
  · rfl

theorem robot_periodic_last_mode (input : LoopInput) (robot : Robot) (last : Option Mode) :
    robotPeriodic sizes math input { robot with lastMode := last } =
      { robotPeriodic sizes math input robot with
        robot := { (robotPeriodic sizes math input robot).robot with lastMode := last } } := by
  rw [robotPeriodic, robotPeriodic]
  split
  · split
    · rfl
    · split <;> rfl
  · rfl

theorem exit_calls_quiet (base : IterativeRobotBase) (mode : Option Mode) (input : LoopInput) (run : LoopRun) :
    (base.exitCalls mode).foldl (onCall sizes math input) run = run := by
  cases mode with
  | none => rfl
  | some mode =>
      cases mode with
      | kTest =>
          rw [IterativeRobotBase.exitCalls]
          split <;> rfl
      | kDisabled | kAutonomous | kTeleop => rfl

theorem init_calls_run (base : IterativeRobotBase) (mode : Mode) (input : LoopInput) (run : LoopRun) :
    (base.initCalls (some mode)).foldl (onCall sizes math input) run =
      { run with robot := { run.robot with controlMode := mode } } := by
  cases mode with
  | kTest =>
      rw [IterativeRobotBase.initCalls]
      split <;> rfl
  | kDisabled | kAutonomous | kTeleop => rfl

theorem change_calls_run (base : IterativeRobotBase) (robot : Robot) (same : robot.lastMode = base.lastMode) (input : LoopInput) :
    ∃ changed : Robot, (base.changeCalls (some input.mode)).foldl (onCall sizes math input) ⟨robot, [], []⟩ = ⟨changed, [], []⟩ ∧
      modeInit input robot = { changed with lastMode := some input.mode } := by
  rw [IterativeRobotBase.changeCalls, modeInit, same]
  by_cases unchanged : base.lastMode = some input.mode
  · rw [if_neg (not_not.mpr unchanged), if_pos unchanged, ← unchanged, ← same]
    exact ⟨robot, rfl, rfl⟩
  · rw [if_pos unchanged, if_neg unchanged, List.foldl_append, exit_calls_quiet, init_calls_run]
    exact ⟨_, rfl, rfl⟩

theorem callback_turn_loop (base : IterativeRobotBase) (robot : Robot) (same : robot.lastMode = base.lastMode)
    (word : DSControlWord) (input : LoopInput) (mode : word.mode = some input.mode) :
    callbackTurn sizes math (base, robot) (word, input) =
      (((base.loopFunc word).1, (loopTurn sizes math robot input).1), (loopTurn sizes math robot input).2) := by
  obtain ⟨changed, ran, entered⟩ := change_calls_run sizes math base robot same input
  simp only [callbackTurn, IterativeRobotBase.loopFunc, mode, IterativeRobotBase.periodicCalls, List.foldl_append, ran,
    List.foldl_cons, List.foldl_nil, onCall, List.nil_append, loopTurn, loopFunc, beforeRobotPeriodic, entered,
    mode_periodic_last_mode, robot_periodic_last_mode]

theorem mode_periodic_modes (input : LoopInput) (robot : Robot) :
    (modePeriodic math input robot).controlMode = robot.controlMode ∧ (modePeriodic math input robot).lastMode = robot.lastMode := by
  obtain skipped | ⟨_, ran⟩ := mode_periodic_cases math robot input
  · rw [skipped]
    exact ⟨rfl, rfl⟩
  · rw [ran]
    exact ⟨rfl, rfl⟩

theorem robot_periodic_modes (input : LoopInput) (robot : Robot) :
    (robotPeriodic sizes math input robot).robot.controlMode = robot.controlMode ∧
      (robotPeriodic sizes math input robot).robot.lastMode = robot.lastMode := by
  rw [robotPeriodic]
  split
  · split
    · exact ⟨rfl, rfl⟩
    · split <;> exact ⟨rfl, rfl⟩
  · exact ⟨rfl, rfl⟩

-- The mode that the tasks read is the one LoopFunc last entered.
def InMode (robot : Robot) : Prop := robot.controlMode = robot.lastMode.getD .kDisabled

theorem loop_turn_mode (robot : Robot) (input : LoopInput) (inMode : robot.InMode) :
    (loopTurn sizes math robot input).1.InMode ∧ (loopTurn sizes math robot input).1.lastMode = some input.mode := by
  have entered : (modeInit input robot).controlMode = input.mode ∧ (modeInit input robot).lastMode = some input.mode := by
    rw [modeInit]
    split
    · rename_i unchanged
      refine ⟨?_, unchanged⟩
      rw [inMode, unchanged, Option.getD_some]
    · exact ⟨rfl, rfl⟩
  obtain ⟨control, last⟩ := robot_periodic_modes sizes math input (beforeRobotPeriodic math robot input)
  obtain ⟨periodicControl, periodicLast⟩ := mode_periodic_modes math input (modeInit input robot)
  have lastMode : (loopTurn sizes math robot input).1.lastMode = some input.mode :=
    last.trans (periodicLast.trans entered.2)
  have controlMode : (loopTurn sizes math robot input).1.controlMode = input.mode :=
    control.trans (periodicControl.trans entered.1)
  refine ⟨?_, lastMode⟩
  rw [InMode, lastMode, controlMode, Option.getD_some]

def WordsAgree (turns : List (DSControlWord × LoopInput)) : Prop := ∀ turn ∈ turns, turn.1.mode = some turn.2.mode

instance decidableWordsAgree (turns : List (DSControlWord × LoopInput)) : Decidable (WordsAgree turns) :=
  inferInstanceAs (Decidable (∀ turn ∈ turns, turn.1.mode = some turn.2.mode))

theorem callbacks_run_loop (turns : List (DSControlWord × LoopInput)) (agree : WordsAgree turns) (base : IterativeRobotBase)
    (robot : Robot) (same : robot.lastMode = base.lastMode) (inMode : robot.InMode) :
    let run := Runs.runLog (callbackTurn sizes math) (base, robot) turns
    run.2 = (Runs.runLog (loopTurn sizes math) robot (turns.map Prod.snd)).2 ∧ run.1.2.InMode ∧
      run.1.2.lastMode = run.1.1.lastMode := by
  induction turns generalizing base robot with
  | nil => exact ⟨rfl, inMode, same⟩
  | cons turn rest ih =>
      obtain ⟨word, input⟩ := turn
      obtain ⟨now, later⟩ := List.forall_mem_cons.mp agree
      obtain ⟨next, last⟩ := loop_turn_mode sizes math robot input inMode
      obtain ⟨outputs, final⟩ := ih later (base.loopFunc word).1 (loopTurn sizes math robot input).1 (last.trans now.symm) next
      simp only [Runs.runLog, List.map_cons, callback_turn_loop sizes math base robot same word input now]
      exact ⟨congrArg (List.cons _) outputs, final⟩

-- So what is proved of Robot.loop holds of LoopFunc with Robot's callbacks.
theorem robot_runs_in_base (mMotorConfiguration mLEDControl : Bytes) (lwEnabledInTest : Bool)
    (turns : List (DSControlWord × LoopInput)) (agree : WordsAgree turns) :
    let run := Runs.runLog (callbackTurn sizes math)
      (IterativeRobotBase.start lwEnabledInTest, start mMotorConfiguration mLEDControl) turns
    run.2 = (Runs.runLog (loopTurn sizes math) (start mMotorConfiguration mLEDControl) (turns.map Prod.snd)).2 ∧
      run.1.2.InMode ∧ run.1.2.lastMode = run.1.1.lastMode :=
  callbacks_run_loop sizes math turns agree _ _ rfl rfl

def teleopWord : DSControlWord := ⟨false, false, true, false⟩

def RunsInBase (turns : List (DSControlWord × LoopInput)) : Prop :=
  let run := Runs.runLog (callbackTurn entryBytes exactSwerve) (IterativeRobotBase.start true, start [] []) turns
  run.2 = (Runs.runLog (loopTurn entryBytes exactSwerve) (start [] []) (turns.map Prod.snd)).2 ∧
    run.1.2.InMode ∧ run.1.2.lastMode = run.1.1.lastMode

theorem teleop_then_disabled_runs_in_base :
    RunsInBase [(teleopWord, failoverLoop .kTeleop (.finite (-1))), (⟨true, false, true, false⟩, failoverLoop .kDisabled 0)] :=
  robot_runs_in_base entryBytes exactSwerve [] [] true _ (by decide)

end Robot

end RioPassthru
