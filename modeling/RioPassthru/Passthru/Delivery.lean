import RioPassthru.Passthru.StandStill
import RioPassthru.Status.StatusTasks

set_option autoImplicit false

namespace RioPassthru

def TalonCommand.mode : TalonCommand → ControlMode
  | .set mode _ _ => mode
  | .follow _ => .follower

theorem commanded_mode (mCtrl : BaseTalon) (sent : TalonCommand) (last : mCtrl.lastCommand = some sent) :
    mCtrl.getControlMode = sent.mode := by
  rw [BaseTalon.getControlMode, last]
  cases sent <;> rfl

namespace SendMotorDataTask

def IsFor (id : Nat) (fields : StatusEntry) : Prop := fields.lookup "id" = some (.int id)

instance (id : Nat) : DecidablePred (IsFor id) := fun fields => inferInstanceAs (Decidable (fields.lookup "id" = some (.int id)))

def ReportsMode (fields : StatusEntry) (mode : ControlMode) : Prop :=
  fields.lookup "control_mode" = some (.int (modeNumber mode))

theorem entry_is_for (reading : MotorReading) (own id : Nat) (mCtrl : BaseTalon) (mType : MotorType) :
    IsFor id (entry reading own mCtrl mType) ↔ own = id := by
  simp [IsFor, entry]

theorem entry_reports_mode (reading : MotorReading) (id : Nat) (mCtrl : BaseTalon) (mType : MotorType) :
    ReportsMode (entry reading id mCtrl mType) mCtrl.getControlMode := by
  simp [ReportsMode, entry, List.lookup]

variable (motors : MotorManager) (readings : Nat → MotorReading)

theorem entries_for (coherent : motors.Coherent) (id : Nat) (mCtrl : BaseTalon)
    (registered : motors.mRegisteredMotorList[id]? = some mCtrl) :
    ∃ mType, (entries motors readings).filter (IsFor id) = [entry (readings id) id mCtrl mType] := by
  have held : id ∈ motors.mRegisteredMotorList := Std.ExtTreeMap.mem_iff_isSome_getElem?.mpr (by rw [registered]; rfl)
  obtain absent | ⟨found, mType, given, same, _⟩ := MotorManager.on_motor_cases motors coherent id
  · exact absurd held absent.1
  · rw [registered] at same
    cases same
    refine ⟨mType, ?_⟩
    have own : motors.mRegisteredMotorList.keys.filter (· = id) = [id] := by
      rw [List.filter_eq, List.count_eq_one_of_mem Std.ExtTreeMap.nodup_keys (Std.ExtTreeMap.mem_keys.mpr held)]
      rfl
    have each : (entries motors readings).filter (IsFor id) =
        (motors.mRegisteredMotorList.keys.filter (· = id)).filterMap fun key =>
          (motors.onMotor key).2.map fun pair => entry (readings key) key pair.1 pair.2 := by
      rw [entries, List.filter_filterMap, List.filterMap_filter]
      apply List.filterMap_congr
      intro key _
      cases (motors.onMotor key).2 with
      | none => simp
      | some pair => simp [Option.filter, entry_is_for]
    rw [each, own]
    simp [given]

theorem entry_of_mem (coherent : motors.Coherent) (fields : StatusEntry) (member : fields ∈ entries motors readings) :
    ∃ id mCtrl, motors.mRegisteredMotorList[id]? = some mCtrl ∧
      (entries motors readings).filter (IsFor id) = [fields] ∧ ReportsMode fields mCtrl.getControlMode := by
  obtain ⟨id, held, given⟩ := List.mem_filterMap.mp member
  obtain ⟨mCtrl, found⟩ := get_of_mem motors.mRegisteredMotorList id (Std.ExtTreeMap.mem_keys.mp held)
  obtain ⟨mType, only⟩ := entries_for motors readings coherent id mCtrl found
  obtain ⟨pair, _, same⟩ := Option.map_eq_some_iff.mp given
  have own : IsFor id fields := by
    rw [← same]
    exact (entry_is_for _ _ _ _ _).mpr rfl
  have single : fields ∈ (entries motors readings).filter (IsFor id) := List.mem_filter.mpr ⟨member, decide_eq_true own⟩
  rw [only, List.mem_singleton] at single
  rw [single]
  exact ⟨id, mCtrl, found, only, entry_reports_mode (readings id) id mCtrl mType⟩

end SendMotorDataTask

namespace ApplyMotorValuesTask

structure Sets (message : List MotorControlMotor) (m : MotorControlMotor) : Prop where
  last : ∃ first rest, message = first ++ m :: rest ∧ ∀ other ∈ rest, uint16 other.id ≠ uint16 m.id
  small : uint16 m.id < 64
  valid : m.controllerType = .talonFX ∨ m.controllerType = .talonSRX
  mode : m.controlMode ≠ .follower
  finite : m.outputValue.isInf = false ∧ m.outputValue.isNaN = false

def setCommand (m : MotorControlMotor) : TalonCommand := .set m.controlMode m.outputValue m.arbitraryFeedforward

variable (toId : Double → Nat)

theorem sets_commands (message : List MotorControlMotor) (m : MotorControlMotor) (sets : Sets message m) (stores : MotorStores)
    (configured : uint16 m.id ∈ stores.configs.mMotorMsgs) :
    (message.foldl (applyMotor toId) stores).motors.Commanded (uint16 m.id) (setCommand m) := by
  obtain ⟨⟨first, rest, rfl, last⟩, small, valid, mode, finite⟩ := sets
  exact entries_command toId first rest m stores last configured small valid mode finite

theorem stop_masters_stops (motors : MotorManager) (id : Nat) (sent : TalonCommand) (commanded : motors.Commanded id sent)
    (leads : sent.mode ≠ .follower) : (stopMasters motors).Commanded id (.set .percentOutput 0 0) := by
  obtain ⟨mCtrl, found, last⟩ := commanded
  refine ⟨mCtrl.received (stopOf mCtrl), by rw [stop_masters_get, found, Option.map_some], ?_⟩
  rw [stopOf, commanded_mode mCtrl sent last, if_pos leads]
  exact received_some mCtrl _

end ApplyMotorValuesTask

namespace Passthru

open ApplyMotorValuesTask

variable (world : PassthruWorld)

def Waits (passthru : Passthru) (turns : List PassthruTurn) : Prop :=
  Runs.EachStep (step world)
    (fun passthru next => storedBytes "motorcontrol" (passthru.turn world next).2 = none ∧
      tookBytes "motorcontrol" (passthru.turn world next).2 = none) passthru turns

-- The pump gets these bytes, and ApplyMotorValuesTask is the first to ask for them.
structure Delivers (before : List PassthruTurn) (bytes : Bytes) (between : List PassthruTurn) : Prop where
  pumping : (reached world before).point = .idle
  accepted : bytes.length ≠ EAGAIN
  waits : Waits world (reached world (before ++ [.receive ⟨"motorcontrol", bytes⟩])) between
  asking : (reached world (before ++ .receive ⟨"motorcontrol", bytes⟩ :: between)).point = .idle

variable {world}

theorem waits_slot (turns : List PassthruTurn) (passthru : Passthru) (waits : Waits world passthru turns) :
    slotOf "motorcontrol" (Runs.runSteps (step world) passthru turns) = slotOf "motorcontrol" passthru := by
  induction turns generalizing passthru with
  | nil => rfl
  | cons next rest ih =>
      obtain ⟨⟨unstored, untaken⟩, later⟩ := waits
      exact (ih _ later).trans ((turn_steps world "motorcontrol" passthru next).keeps unstored untaken)

theorem delivered_slot (before between : List PassthruTurn) (bytes : Bytes) (delivers : Delivers world before bytes between) :
    (reached world (before ++ .receive ⟨"motorcontrol", bytes⟩ :: between)).network.recvMsgMap "motorcontrol" = some bytes := by
  have stored : slotOf "motorcontrol" (reached world (before ++ [.receive ⟨"motorcontrol", bytes⟩])) = some bytes := by
    rw [reached, Histories.run_steps_concat, ← reached]
    simp only [slotOf, step, turn, schedulerTurn, delivers.pumping, delivers.accepted, ne_eq, not_false_eq_true, and_self, if_true,
      NetworkManager.storeReceived, Function.update_self]
  have waiting := waits_slot between _ delivers.waits
  rw [stored, reached, ← Runs.run_steps_append, List.append_assoc, List.singleton_append] at waiting
  exact waiting

theorem checking_step (passthru : Passthru) (next : PassthruTurn) (checking : passthru.point = .checking)
    (other : next ≠ .checkDisabled) :
    (passthru.step world next).point = .checking ∧ (passthru.step world next).stores = passthru.stores := by
  cases next with
  | modeInit mode | modePeriodic input | robotPeriodic input | placeMessage =>
      obtain ⟨stores, point⟩ : (passthru.robotTurn world _).1.stores = _ ∧ (passthru.robotTurn world _).1.point = _ :=
        robot_turn_motors passthru _
      exact ⟨point.trans checking, stores⟩
  | checkDisabled => exact absurd rfl other
  | receive msg | report | applyMotorValues locked | applyMotorConfig locked getEncoder outcomes | poll group
  | processHeartbeat => simp [step, turn, schedulerTurn, checking]

theorem checking_run (turns : List PassthruTurn) (passthru : Passthru) (checking : passthru.point = .checking)
    (unchecked : PassthruTurn.checkDisabled ∉ turns) :
    (Runs.runSteps (step world) passthru turns).point = .checking ∧
      (Runs.runSteps (step world) passthru turns).stores = passthru.stores := by
  refine Runs.run_steps_while (step world) (fun after => after.point = .checking ∧ after.stores = passthru.stores)
    (fun next => next ≠ .checkDisabled) ?_ turns passthru ⟨checking, rfl⟩ fun next member same => unchecked (same ▸ member)
  intro after next ⟨checking, same⟩ other
  obtain ⟨point, stores⟩ := checking_step after next checking other
  exact ⟨point, stores.trans same⟩

structure Reported (motors : MotorManager) (id : Nat) (sent : TalonCommand) : Prop where
  commanded : motors.Commanded id sent
  status : ∀ readings, ∃ fields, (SendMotorDataTask.entries motors readings).filter (SendMotorDataTask.IsFor id) = [fields] ∧
    SendMotorDataTask.ReportsMode fields sent.mode

theorem commanded_reported (motors : MotorManager) (coherent : motors.Coherent) (id : Nat) (sent : TalonCommand)
    (commanded : motors.Commanded id sent) : Reported motors id sent := by
  refine ⟨commanded, fun readings => ?_⟩
  obtain ⟨mCtrl, found, last⟩ := commanded
  obtain ⟨mType, only⟩ := SendMotorDataTask.entries_for motors readings coherent id mCtrl found
  refine ⟨_, only, ?_⟩
  rw [← commanded_mode mCtrl sent last]
  exact SendMotorDataTask.entry_reports_mode (readings id) id mCtrl mType

def checkedCommand (passthru : Passthru) (m : MotorControlMotor) : TalonCommand :=
  if passthru.robot.controlMode = .kDisabled then .set .percentOutput 0 0 else setCommand m

theorem applied_commands (turns after : List PassthruTurn) (bytes : Bytes) (message : List MotorControlMotor) (m : MotorControlMotor)
    (asking : (reached world turns).point = .idle)
    (waiting : (reached world turns).network.recvMsgMap "motorcontrol" = some bytes)
    (parsed : world.parseMotorControl bytes = some message) (sets : Sets message m)
    (configured : uint16 m.id ∈ (reached world turns).stores.configs.mMotorMsgs) (unchecked : PassthruTurn.checkDisabled ∉ after) :
    (reached world (turns ++ .applyMotorValues true :: after)).point = .checking ∧
      (reached world (turns ++ .applyMotorValues true :: after)).stores.motors.Commanded (uint16 m.id) (setCommand m) := by
  rw [reached, Runs.run_steps_append, ← reached, Runs.runSteps]
  have applied : ((reached world turns).step world (.applyMotorValues true)).point = .checking ∧
      ((reached world turns).step world (.applyMotorValues true)).stores =
        message.foldl (applyMotor world.motors.toId) (reached world turns).stores := by
    simp only [step, turn, schedulerTurn, if_pos asking, true_and]
    rw [take_answer, waiting, Option.bind_some, parsed, applyMessage]
    rfl
  obtain ⟨point, stores⟩ := checking_run after _ applied.1 unchecked
  refine ⟨point, ?_⟩
  rw [stores, applied.2]
  exact sets_commands world.motors.toId message m sets _ configured

theorem datagram_reaches_status (before between after : List PassthruTurn) (bytes : Bytes) (message : List MotorControlMotor)
    (m : MotorControlMotor) (delivers : Delivers world before bytes between)
    (parsed : world.parseMotorControl bytes = some message) (sets : Sets message m)
    (configured : uint16 m.id ∈ (reached world (before ++ .receive ⟨"motorcontrol", bytes⟩ :: between)).stores.configs.mMotorMsgs)
    (unchecked : PassthruTurn.checkDisabled ∉ after) :
    let run := before ++ .receive ⟨"motorcontrol", bytes⟩ :: between ++ .applyMotorValues true :: after
    Reported (reached world (run ++ [.checkDisabled])).stores.motors (uint16 m.id) (checkedCommand (reached world run) m) := by
  intro run
  obtain ⟨checking, commanded⟩ := applied_commands _ after bytes message m delivers.asking
    (delivered_slot before between bytes delivers) parsed sets configured unchecked
  apply commanded_reported _ (reached_motors _).1.motors
  rw [reached, Histories.run_steps_concat, ← reached, checkedCommand]
  simp only [step, turn, schedulerTurn]
  rw [if_pos checking]
  dsimp only
  split
  · exact stop_masters_stops _ _ _ commanded sets.mode
  · exact commanded

def configuredTeleop : List PassthruTurn :=
  [.receive ⟨"motorconfig", [1]⟩, .report, .applyMotorConfig true (fun _ => none) (fun _ _ _ _ => .OK), .modeInit .kTeleop]

def othersFirst : List PassthruTurn := [.report, .receive ⟨"ledcontrol", [1]⟩, .poll "ledcontrol", .report, .processHeartbeat]

theorem half_speed_reaches_status :
    Reported (reached oneMotorWorld (configuredTeleop ++ .receive ⟨"motorcontrol", [2]⟩ :: othersFirst ++
      .applyMotorValues true :: [.modePeriodic (failoverLoop .kTeleop 0)] ++ [.checkDisabled])).stores.motors 1
      (.set .percentOutput (.finite (1 / 2)) 0) := by
  have told : checkedCommand (reached oneMotorWorld (configuredTeleop ++ .receive ⟨"motorcontrol", [2]⟩ :: othersFirst ++
      .applyMotorValues true :: [.modePeriodic (failoverLoop .kTeleop 0)])) ⟨1, .talonFX, .percentOutput, .finite (1 / 2), 0⟩ =
      .set .percentOutput (.finite (1 / 2)) 0 := by
    decide +kernel
  rw [← told]
  apply datagram_reaches_status configuredTeleop othersFirst [.modePeriodic (failoverLoop .kTeleop 0)] [2]
    [⟨1, .talonFX, .percentOutput, .finite (1 / 2), 0⟩] ⟨1, .talonFX, .percentOutput, .finite (1 / 2), 0⟩
  · refine ⟨by decide +kernel, by decide, ?_, by decide +kernel⟩
    unfold Waits
    decide +kernel
  · rfl
  · exact ⟨⟨[], [], rfl, List.forall_mem_nil _⟩, by decide, .inl rfl, ControlMode.noConfusion, by decide⟩
  · decide +kernel
  · exact List.not_mem_cons_of_ne_of_not_mem nofun List.not_mem_nil

-- Of a motor that is reported there is one entry; its mode is the one it was never told to leave, or one it was told.
def StatusAccounted (world : PassthruWorld) (turns : List PassthruTurn) (motors : MotorManager) (readings : Nat → MotorReading) : Prop :=
  ∀ fields ∈ SendMotorDataTask.entries motors readings, ∃ id < 64,
    (SendMotorDataTask.entries motors readings).filter (SendMotorDataTask.IsFor id) = [fields] ∧
      ((SendMotorDataTask.ReportsMode fields .percentOutput ∧ ∀ sent, ¬ motors.Commanded id sent) ∨
        ∃ sent, Accounted world turns id sent ∧ SendMotorDataTask.ReportsMode fields sent.mode)

theorem status_accounted_for (turns : List PassthruTurn) (readings : Nat → MotorReading) :
    StatusAccounted world turns (reached world turns).stores.motors readings := by
  intro fields member
  have coherent : (reached world turns).stores.Coherent := (reached_motors turns).1
  obtain ⟨id, mCtrl, found, only⟩ := SendMotorDataTask.entry_of_mem _ readings coherent.motors fields member
  have registered := Std.ExtTreeMap.mem_iff_isSome_getElem?.mpr (Option.isSome_of_mem found)
  refine ⟨id, coherent.motors.below id registered, only.1, ?_⟩
  cases last : mCtrl.lastCommand with
  | none =>
      refine .inl ⟨?_, ?_⟩
      · have reports := only.2
        rwa [BaseTalon.getControlMode, last] at reports
      · rintro sent ⟨other, found', commanded⟩
        rw [found] at found'
        cases found'
        rw [last] at commanded
        cases commanded
  | some sent =>
      refine .inr ⟨sent, (reached_provenance turns).commands id sent ⟨mCtrl, found, last⟩, ?_⟩
      rw [← commanded_mode mCtrl sent last]
      exact only.2

end Passthru

end RioPassthru
