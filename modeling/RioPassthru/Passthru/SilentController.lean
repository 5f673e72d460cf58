import RioPassthru.Motor.MotorIds
import RioPassthru.Passthru.StandStill

set_option autoImplicit false

namespace RioPassthru

namespace MotorManager

theorem motor_type_heartbeats (motors : MotorManager) (id : Nat) :
    (motors.motorType id).1.mRegisteredMotorHeartbeatList = motors.mRegisteredMotorHeartbeatList := by
  rw [motorType]
  split <;> rfl

theorem visit_heartbeats (func : Nat → BaseTalon → MotorType → Option TalonCommand) (motors : MotorManager) (id : Nat) :
    (motors.visit func id).mRegisteredMotorHeartbeatList = motors.mRegisteredMotorHeartbeatList := by
  rw [visit, onMotor]
  cases motors.mRegisteredMotorList[id]? with
  | none => rfl
  | some mCtrl =>
      dsimp only
      split <;> exact motor_type_heartbeats motors id

theorem for_each_heartbeats (func : Nat → BaseTalon → MotorType → Option TalonCommand) (motors : MotorManager) :
    (motors.forEach func).mRegisteredMotorHeartbeatList = motors.mRegisteredMotorHeartbeatList := by
  rw [forEach]
  generalize motors.mRegisteredMotorList.keys = ids
  induction ids generalizing motors with
  | nil => rfl
  | cons id rest ih => exact (ih (motors.visit func id)).trans (visit_heartbeats func motors id)

def OnlyFailover (motors : MotorManager) : Prop := ∀ id ∈ motors.mRegisteredMotorList, 1 ≤ id ∧ id ≤ 14

def LeftAtMost (motors : MotorManager) (left : Int) : Prop :=
  ∀ (id : Nat) (beat : Int), ¬ (1 ≤ id ∧ id ≤ 14) → motors.mRegisteredMotorHeartbeatList[id]? = some beat → beat ≤ left

end MotorManager

theorem process_heartbeat_left (stores : MotorStores) (left : Int) (kept : stores.motors.LeftAtMost left) :
    stores.processHeartbeat.motors.LeftAtMost (left - 1) := by
  intro id beat other found
  have ticked := MotorStores.watchdog_rules.ticked stores
  rw [MotorStores.watchdogStep, MotorStores.process_heartbeat_loop, MotorStores.beats, MotorStores.beats] at ticked
  rw [ticked, Expiry.pass_get] at found
  obtain ⟨before, held, lower⟩ := Option.bind_eq_some_iff.mp found
  have bound := kept id before other held
  rw [Expiry.next] at lower
  split at lower
  · cases lower
  · injection lower with same
    omega

namespace ApplyMotorValuesTask

variable (toId : Double → Nat)

theorem entry_left (stores : MotorStores) (left : Int) (kept : stores.motors.LeftAtMost left) (m : MotorControlMotor)
    (failover : 1 ≤ uint16 m.id ∧ uint16 m.id ≤ 14) (valid : m.controllerType = .talonFX) :
    (applyMotor toId stores m).motors.LeftAtMost left := by
  by_cases taken : accepted toId stores m
  · have beats := apply_motor_beats toId stores m taken (by omega) (.inl valid)
    intro id beat other found
    have apart : ¬ uint16 m.id = id := fun same => other (same ▸ failover)
    rw [MotorStores.beats] at beats
    rw [beats, Std.ExtTreeMap.getElem?_insert] at found
    simp only [Std.LawfulEqCmp.compare_eq_iff_eq, apart, if_false] at found
    exact kept id beat other found
  · rwa [apply_motor_refused toId stores m taken]

theorem failover_entries_left (drives steering : PerWheel Double) (stores : MotorStores) (left : Int)
    (kept : stores.motors.LeftAtMost left) :
    ((failoverMotors drives steering).foldl (applyMotor toId) stores).motors.LeftAtMost left := by
  have own : ∀ m ∈ failoverMotors drives steering, (1 ≤ uint16 m.id ∧ uint16 m.id ≤ 14) ∧ m.controllerType = .talonFX := by
    simp [failoverMotors, uint16]
  generalize failoverMotors drives steering = message at own
  induction message generalizing stores with
  | nil => exact kept
  | cons m rest ih =>
      obtain ⟨now, later⟩ := List.forall_mem_cons.mp own
      exact ih _ (entry_left toId stores left kept m now.1 now.2) later

end ApplyMotorValuesTask

namespace Passthru

open ApplyMotorValuesTask

variable (world : PassthruWorld)

def ticks (passthru : Passthru) : PassthruTurn → Nat
  | .processHeartbeat => if passthru.point = .idle then 1 else 0
  | _ => 0

def heartbeats (passthru : Passthru) : List PassthruTurn → Nat
  | [] => 0
  | next :: rest => passthru.ticks next + heartbeats (passthru.step world next) rest

-- No message of the external controller for the motors waits, none comes, and the heartbeat goes on.
def SilentFor (turns : List PassthruTurn) (count : Nat) : Prop :=
  ∃ before after, turns = before ++ after ∧
    (∀ bytes, (reached world before).network.recvMsgMap "motorcontrol" = some bytes → FailoverBytes world bytes) ∧
    (∀ next ∈ after, ∀ bytes, next ≠ .receive ⟨"motorcontrol", bytes⟩) ∧ count ≤ heartbeats world (reached world before) after

structure Releasing (left : Int) (passthru : Passthru) : Prop where
  motorPart : MotorPart world passthru
  sources : SlotFrom world (FailoverBytes world) passthru
  left : passthru.stores.motors.LeftAtMost left

variable {world}

theorem apply_message_left (readsBack : ReadsBack world) (left : Int) (passthru : Passthru)
    (releasing : Releasing world left passthru) (locked : Bool) :
    (applyMessage world.motors.toId passthru.stores
      ⟨(passthru.network.recvMsgMap "motorcontrol").bind world.parseMotorControl, locked, false⟩).motors.LeftAtMost left := by
  rw [applyMessage]
  split
  · rename_i message parsed
    obtain ⟨bytes, waiting, read⟩ := Option.bind_eq_some_iff.mp parsed
    obtain ⟨drives, steering, rfl⟩ := readsBack bytes (releasing.sources.slot bytes waiting) message read
    split
    · exact failover_entries_left _ drives steering _ left releasing.left
    · exact releasing.left
  · exact releasing.left

theorem step_left (readsBack : ReadsBack world) (left : Int) (passthru : Passthru) (next : PassthruTurn)
    (releasing : Releasing world left passthru) :
    (passthru.step world next).stores.motors.LeftAtMost (left - passthru.ticks next) := by
  by_cases beating : next = .processHeartbeat
  · rw [beating]
    simp only [step, turn, schedulerTurn, ticks]
    split
    · exact process_heartbeat_left passthru.stores left releasing.left
    · rw [Nat.cast_zero, sub_zero]
      exact releasing.left
  · have quiet : (passthru.ticks next : Int) = 0 := by
      cases next <;> first | rfl | exact absurd rfl beating
    rw [quiet, sub_zero]
    have after := step_motors passthru next releasing.motorPart
    generalize (passthru.step world next).stores.motors = motors at after
    cases after with
    | kept => exact releasing.left
    | applied locked => exact apply_message_left readsBack left passthru releasing locked
    | stopped =>
        intro id beat other found
        rw [stopMasters, MotorManager.for_each_heartbeats] at found
        exact releasing.left id beat other found
    | beaten => exact absurd rfl beating

theorem run_left (readsBack : ReadsBack world) (turns : List PassthruTurn) (left : Int) (passthru : Passthru)
    (releasing : Releasing world left passthru) (silent : ∀ next ∈ turns, ∀ bytes, next ≠ .receive ⟨"motorcontrol", bytes⟩) :
    (Runs.runSteps (step world) passthru turns).stores.motors.LeftAtMost (left - heartbeats world passthru turns) := by
  induction turns generalizing left passthru with
  | nil =>
      rw [heartbeats, Nat.cast_zero, sub_zero]
      exact releasing.left
  | cons next rest ih =>
      obtain ⟨now, later⟩ := List.forall_mem_cons.mp silent
      have after : Releasing world (left - passthru.ticks next) (passthru.step world next) :=
        ⟨step_motor_part passthru next releasing.motorPart,
          step_slot_from _ passthru next releasing.sources (silent_sends passthru next now),
          step_left readsBack left passthru next releasing⟩
      have passed := ih (left - passthru.ticks next) _ after later
      rw [heartbeats, Nat.cast_add, ← sub_sub]
      exact passed

-- 250 ticks after the controller's last message only motors of failover are registered, whatever ran in between.
theorem silent_controller_releases_motors (readsBack : ReadsBack world) (turns : List PassthruTurn)
    (silent : SilentFor world turns 250) : (reached world turns).stores.motors.OnlyFailover := by
  obtain ⟨before, after, rfl, waiting, quiet, count⟩ := silent
  have known : SlotFrom world (BytesSent world before) (reached world before) := (reached_provenance before).sources
  have coherent : (reached world before).stores.Coherent := (reached_motors before).1
  have start : Releasing world 250 (reached world before) := by
    refine ⟨(reached_parts before).2, ⟨known.contents, known.expected, ?_, waiting⟩, ?_⟩
    · intro motors member
      obtain ⟨drives, steering, rfl⟩ := known.expected _ member
      exact ⟨drives, steering, rfl⟩
    · exact fun id beat _ found => (coherent.motors.beats id beat found).2
  have left := run_left readsBack after 250 _ start quiet
  have now : (reached world (before ++ after)).stores.Coherent := (reached_motors (before ++ after)).1
  rw [reached, Runs.run_steps_append, ← reached] at now ⊢
  intro id registered
  by_contra other
  obtain ⟨beat, found⟩ := get_of_mem _ id ((now.motors.heartbeats id).mpr registered)
  have few := left id beat other found
  have some := (now.motors.beats id beat found).1
  omega

def foreignWorld : PassthruWorld where
  motors := truncatingWorld
  sizes := entryBytes
  math := exactSwerve
  encode := fun message => if message.group = "motorcontrol" then [3] else [1]
  parseMotorControl := fun bytes =>
    if bytes = [3] then some (failoverMotors ⟨0, 0, 0, 0⟩ ⟨0, 0, 0, 0⟩) else some [⟨20, .talonFX, .percentOutput, .finite (1 / 2), 0⟩]
  parseMotorConfiguration := fun _ => some [plainMotor 20 (by decide)]
  mMotorConfiguration := []
  mLEDControl := []

def drivenForeign : List PassthruTurn :=
  [.modeInit .kTeleop, .receive ⟨"motorconfig", [1]⟩, .report,
    .applyMotorConfig true (fun _ => none) (fun _ _ _ _ => .OK), .receive ⟨"motorcontrol", [2]⟩, .report,
    .applyMotorValues true, .checkDisabled]

def fiveSeconds : List PassthruTurn :=
  List.replicate 50 .processHeartbeat ++
    [.robotPeriodic (failoverLoop .kTeleop 0), .placeMessage, .applyMotorValues true, .checkDisabled] ++
    List.replicate 200 .processHeartbeat

theorem foreign_motor_released : (reached foreignWorld (drivenForeign ++ fiveSeconds)).stores.motors.OnlyFailover := by
  apply silent_controller_releases_motors
  · intro bytes ⟨_, _, sent⟩ message read
    subst sent
    exact ⟨⟨0, 0, 0, 0⟩, ⟨0, 0, 0, 0⟩, (Option.some.inj read).symm⟩
  · refine ⟨drivenForeign, fiveSeconds, rfl, ?_, ?_, by decide +kernel⟩
    · intro bytes held
      have taken : (reached foreignWorld drivenForeign).network.recvMsgMap "motorcontrol" = none := by decide +kernel
      rw [taken] at held
      cases held
    · intro next member bytes same
      subst same
      rw [fiveSeconds, List.mem_append, List.mem_append, List.mem_replicate, List.mem_replicate] at member
      simp at member

example : (reached foreignWorld drivenForeign).stores.motors.motorExists 20 = true := by decide +kernel

end Passthru

end RioPassthru
