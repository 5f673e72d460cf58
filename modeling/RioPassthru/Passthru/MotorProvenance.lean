import RioPassthru.Passthru.MotorTurns

set_option autoImplicit false

namespace RioPassthru

def MotorManager.Commanded (motors : MotorManager) (id : Nat) (sent : TalonCommand) : Prop :=
  ∃ mCtrl, motors.mRegisteredMotorList[id]? = some mCtrl ∧ mCtrl.lastCommand = some sent

namespace ApplyMotorValuesTask

variable (toId : Double → Nat)

def Asks (m : MotorControlMotor) (sent : TalonCommand) : Prop :=
  m.controlMode ≠ .follower ∧ m.outputValue.isInf = false ∧ m.outputValue.isNaN = false ∧
      sent = .set m.controlMode m.outputValue m.arbitraryFeedforward ∨
    m.controlMode = .follower ∧ sent = .follow (toId m.outputValue)

theorem command_of_asks (motors : MotorManager) (numbered : motors.Numbered) (m : MotorControlMotor) (mCtrl : BaseTalon)
    (sent : TalonCommand) (made : commandOf toId motors m mCtrl = some sent) : Asks toId m sent := by
  rw [commandOf] at made
  split at made
  · rename_i mode
    split at made
    · rename_i finite
      exact .inl ⟨mode, finite.1, finite.2, (Option.some.inj made).symm⟩
    · cases made
  · rename_i mode
    split at made
    · rename_i motorMaster held
      split at made
      · rw [numbered _ motorMaster held] at made
        exact .inr ⟨not_not.mp mode, (Option.some.inj made).symm⟩
      · cases made
    · cases made

theorem register_motor_numbered (motors : MotorManager) (numbered : motors.Numbered) (id : Nat) (mType : MotorType)
    (canInterface : Int) : (motors.registerMotor id mType canInterface).Numbered := by
  intro key mCtrl found
  rw [MotorManager.register_motor_get] at found
  split at found
  · rename_i new
    rw [new.1]
    exact MotorManager.new_motor_number _ _ _ mCtrl found
  · exact numbered key mCtrl found

theorem register_motor_commanded (motors : MotorManager) (id : Nat) (mType : MotorType) (canInterface : Int) (key : Nat)
    (sent : TalonCommand) (commanded : (motors.registerMotor id mType canInterface).Commanded key sent) :
    motors.Commanded key sent := by
  obtain ⟨mCtrl, found, last⟩ := commanded
  rw [MotorManager.register_motor_get] at found
  split at found
  · have idle : mCtrl.lastCommand = none := by
      cases mType <;> cases found <;> rfl
    rw [idle] at last
    cases last
  · exact ⟨mCtrl, found, last⟩

theorem apply_motor_commanded (stores : MotorStores) (numbered : stores.motors.Numbered) (m : MotorControlMotor) (id : Nat)
    (sent : TalonCommand) (commanded : (applyMotor toId stores m).motors.Commanded id sent) :
    stores.motors.Commanded id sent ∨ uint16 m.id = id ∧ Asks toId m sent := by
  by_cases taken : accepted toId stores m
  · obtain ⟨canInterface, applied⟩ := apply_motor_accepted toId stores m taken
    obtain ⟨mCtrl, found, last⟩ := commanded
    rw [applied, drive_motor_get] at found
    split at found
    · rename_i own
      obtain ⟨before, held, same⟩ := Option.map_eq_some_iff.mp found
      subst same
      cases made : commandOf toId (stores.motors.registerMotor (uint16 m.id) m.controllerType canInterface) m before with
      | none =>
          rw [made, received_none] at last
          exact .inl (register_motor_commanded _ _ _ _ id sent ⟨before, held, last⟩)
      | some asked =>
          rw [made, received_some] at last
          cases last
          exact .inr ⟨own.symm, command_of_asks toId _ (register_motor_numbered _ numbered _ _ _) m before sent made⟩
    · exact .inl (register_motor_commanded _ _ _ _ id sent ⟨mCtrl, found, last⟩)
  · rw [apply_motor_refused toId stores m taken] at commanded
    exact .inl commanded

theorem entries_commanded (entries : List MotorControlMotor) (stores : MotorStores) (numbered : stores.motors.Numbered)
    (id : Nat) (sent : TalonCommand) (commanded : (entries.foldl (applyMotor toId) stores).motors.Commanded id sent) :
    stores.motors.Commanded id sent ∨ ∃ m ∈ entries, uint16 m.id = id ∧ Asks toId m sent := by
  induction entries generalizing stores with
  | nil => exact .inl commanded
  | cons m rest ih =>
      obtain before | ⟨asking, member, asks⟩ := ih _ (apply_motor_numbered toId stores numbered m) commanded
      · obtain before | own := apply_motor_commanded toId stores numbered m id sent before
        · exact .inl before
        · exact .inr ⟨m, List.mem_cons_self, own⟩
      · exact .inr ⟨asking, List.mem_cons_of_mem m member, asks⟩

theorem stop_masters_commanded (motors : MotorManager) (id : Nat) (sent : TalonCommand)
    (commanded : (stopMasters motors).Commanded id sent) :
    motors.Commanded id sent ∨ sent = .set .percentOutput 0 0 := by
  obtain ⟨mCtrl, found, last⟩ := commanded
  rw [stop_masters_get] at found
  obtain ⟨before, held, rfl⟩ := Option.map_eq_some_iff.mp found
  rw [stopOf] at last
  split at last
  · exact .inr (Option.some.inj last).symm
  · exact .inl ⟨before, held, last⟩

end ApplyMotorValuesTask

namespace Passthru

open ApplyMotorValuesTask

variable (world : PassthruWorld)

def BytesSent (turns : List PassthruTurn) (bytes : Bytes) : Prop :=
  Histories.Occurred (step world) (start world) (Sends world bytes) turns

def Stopped (turns : List PassthruTurn) : Prop := Histories.Occurred (step world) (start world) Stops turns

-- A command is the stop of a disabled robot, or an entry of such bytes asked for it.
def Accounted (turns : List PassthruTurn) (id : Nat) (sent : TalonCommand) : Prop :=
  sent = .set .percentOutput 0 0 ∧ Stopped world turns ∨
    ∃ bytes message m, BytesSent world turns bytes ∧ world.parseMotorControl bytes = some message ∧ m ∈ message ∧
      uint16 m.id = id ∧ Asks world.motors.toId m sent

def CommandsAccounted (turns : List PassthruTurn) (motors : MotorManager) : Prop :=
  ∀ id sent, motors.Commanded id sent → Accounted world turns id sent

structure Provenance (turns : List PassthruTurn) (passthru : Passthru) : Prop where
  sources : SlotFrom world (BytesSent world turns) passthru
  commands : CommandsAccounted world turns passthru.stores.motors

variable {world} {turns : List PassthruTurn}

theorem accounted_concat {id : Nat} {sent : TalonCommand} (known : Accounted world turns id sent) (next : PassthruTurn) :
    Accounted world (turns ++ [next]) id sent := by
  obtain ⟨stop, stopped⟩ | ⟨bytes, message, m, came, asked⟩ := known
  · exact .inl ⟨stop, Histories.occurred_concat stopped next⟩
  · exact .inr ⟨bytes, message, m, Histories.occurred_concat came next, asked⟩

theorem apply_message_accounted (passthru : Passthru) (numbered : passthru.stores.motors.Numbered)
    (known : Provenance world turns passthru) (locked : Bool) :
    CommandsAccounted world turns (applyMessage world.motors.toId passthru.stores
      ⟨(passthru.network.recvMsgMap "motorcontrol").bind world.parseMotorControl, locked, false⟩).motors := by
  intro id sent commanded
  rw [applyMessage] at commanded
  split at commanded
  · rename_i message parsed
    obtain ⟨bytes, held, read⟩ := Option.bind_eq_some_iff.mp parsed
    split at commanded
    · obtain before | ⟨m, member, own, asks⟩ :=
        entries_commanded world.motors.toId message passthru.stores numbered id sent commanded
      · exact known.commands id sent before
      · exact .inr ⟨bytes, message, m, known.sources.slot bytes held, read, member, own, asks⟩
    · exact known.commands id sent commanded
  · exact known.commands id sent commanded

theorem provenance_turn (next : PassthruTurn) (known : Provenance world turns (reached world turns)) :
    Provenance world (turns ++ [next]) ((reached world turns).step world next) := by
  constructor
  · have later := slot_from_mono known.sources (fun bytes came => Histories.occurred_concat came next)
    exact step_slot_from _ _ next later (fun bytes => Histories.occurred_now (step world) (start world) _ turns next)
  · intro id sent commanded
    obtain ⟨_, numbered⟩ : (reached world turns).stores.Coherent ∧ (reached world turns).stores.motors.Numbered :=
      reached_motors turns
    have after := step_motors (reached world turns) next (reached_parts turns).2
    generalize ((reached world turns).step world next).stores.motors = motors at after commanded
    cases after with
    | kept => exact accounted_concat (known.commands id sent commanded) next
    | applied locked => exact accounted_concat (apply_message_accounted _ numbered known locked id sent commanded) _
    | stopped stops =>
        obtain before | stop := stop_masters_commanded _ id sent commanded
        · exact accounted_concat (known.commands id sent before) _
        · exact .inl ⟨stop, Histories.occurred_now (step world) (start world) _ turns _ stops⟩
    | beaten =>
        obtain ⟨mCtrl, found, last⟩ := commanded
        exact accounted_concat (known.commands id sent ⟨mCtrl, MotorStores.process_heartbeat_found _ id mCtrl found, last⟩) _

theorem reached_provenance (turns : List PassthruTurn) : Provenance world turns (reached world turns) := by
  refine Histories.invariant_so_far (step world) (start world) (Provenance world) ?_
    (fun turns next known => provenance_turn next known) turns
  refine ⟨⟨start_contents _ _, nofun, nofun, nofun⟩, ?_⟩
  intro id sent ⟨mCtrl, found, _⟩
  simp [start, MotorStores.empty] at found

-- Every command on a motor was sent by the controller of that moment, or is the stop.
theorem commands_accounted_for (turns : List PassthruTurn) :
    CommandsAccounted world turns (reached world turns).stores.motors :=
  (reached_provenance turns).commands

end Passthru

end RioPassthru
