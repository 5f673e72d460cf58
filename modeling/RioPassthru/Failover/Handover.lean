import RioPassthru.Failover.FailoverMessageManager
import RioPassthru.Network.MessageStore

set_option autoImplicit false

namespace RioPassthru

open FailoverMessageManager

inductive StoreSource where
  | pump
  | failover
deriving DecidableEq, Repr

namespace FailoverMessage

def group : FailoverMessage → String
  | .motorControl _ => "motorcontrol"
  | .solenoidControl _ => "solenoidcontrol"
  | .motorConfig _ => "motorconfig"
  | .ledControl _ => "ledcontrol"

end FailoverMessage

-- The robot thread and the scheduler thread around the store. toPlace is what
-- publishMessages has left to place, reporting whether the pump has stored a datagram that
-- externalControlMsgReceived has not been called for, and source the last writer of a group.
structure Handover where
  network : NetworkManager
  external : ExternalControlManager
  toPlace : List FailoverMessage
  reporting : Bool
  source : String → StoreSource

-- Whose turn it is. The robot thread reads isExternalControl, with the messages that
-- RobotPeriodic would publish then, or places the next of them.
inductive Turn where
  | robot (messages : FailoverMessageManager)
  | receive (msg : Datagram)
  | report
  | processHeartbeat
  | getMessage (group : String)

namespace Handover

variable (encode : FailoverMessage → Bytes) (sizes : EntrySizes)

def isExternalControl (handover : Handover) : Bool := handover.external.isExternalControlConnected

def start : Handover := ⟨⟨[], fun _ => none⟩, ⟨0⟩, [], false, fun _ => .pump⟩

def robotTurn (handover : Handover) (messages : FailoverMessageManager) : Handover :=
  match handover.toPlace with
  | next :: rest =>
      { handover with
        network := handover.network.placeFailoverMessage next.group (encode next)
        toPlace := rest
        source := Function.update handover.source next.group .failover }
  | [] =>
      if handover.isExternalControl then handover
      else { handover with toPlace := (publishMessages sizes messages).2 }

-- The scheduler thread does nothing else between a store and its report; a datagram of
-- EAGAIN bytes is taken and dropped.
def turn (handover : Handover) : Turn → Handover
  | .robot messages => handover.robotTurn encode sizes messages
  | .receive msg =>
      if handover.reporting = false ∧ msg.payload.length ≠ EAGAIN then
        { handover with
          network := handover.network.storeReceived msg
          reporting := true
          source := Function.update handover.source msg.group .pump }
      else handover
  | .report =>
      if handover.reporting then
        { handover with
          external := handover.external.externalControlMsgReceived
          reporting := false }
      else handover
  | .processHeartbeat =>
      if handover.reporting then handover
      else { handover with external := handover.external.processHeartbeat }
  | .getMessage group =>
      if handover.reporting then handover
      else { handover with network := (handover.network.getMessage group).1 }

def delivered (handover : Handover) : Turn → Option (String × Bytes)
  | .getMessage group =>
      if handover.reporting then none else (handover.network.getMessage group).2.map fun bytes => (group, bytes)
  | _ => none

def ConsumesExternal (handover : Handover) (next : Turn) : Prop :=
  handover.isExternalControl = true → ∀ group bytes, handover.delivered next = some (group, bytes) →
    handover.source group = .pump

def failoverWaits (handover : Handover) (group : String) : Prop :=
  (handover.network.recvMsgMap group).isSome = true ∧ handover.source group = .failover

-- No failover message is placed under external control, and none waits in the store when a
-- received datagram is reported.
def HandsOver (handover : Handover) : Turn → Prop
  | .robot _ => handover.toPlace ≠ [] → handover.isExternalControl = false
  | .report => handover.reporting = true → ∀ group, ¬ handover.failoverWaits group
  | _ => True

def OnlyExternal (handover : Handover) : Prop :=
  handover.isExternalControl = true → ∀ group, ¬ handover.failoverWaits group

theorem get_message_some (network : NetworkManager) (group : String) :
    (network.getMessage group).2 = network.recvMsgMap group := by
  rw [NetworkManager.getMessage]
  cases held : network.recvMsgMap group <;> rfl

theorem only_external_kept (handover next : Handover) (kept : handover.OnlyExternal)
    (connected : next.isExternalControl = true → handover.isExternalControl = true)
    (fewer : ∀ group, next.failoverWaits group → handover.failoverWaits group) : next.OnlyExternal :=
  fun external group waits => kept (connected external) group (fewer group waits)

theorem robot_turn_kept (handover : Handover) (messages : FailoverMessageManager) (kept : handover.OnlyExternal)
    (met : HandsOver handover (.robot messages)) : (handover.robotTurn encode sizes messages).OnlyExternal := by
  cases remaining : handover.toPlace with
  | nil =>
      simp only [robotTurn, remaining]
      split
      · exact kept
      · exact only_external_kept handover _ kept id fun _ => id
  | cons message rest =>
      simp only [robotTurn, remaining]
      intro external
      have reading : handover.isExternalControl = true := external
      rw [met (by rw [remaining]; exact List.cons_ne_nil message rest)] at reading
      cases reading

theorem report_turn_kept (handover : Handover) (kept : handover.OnlyExternal) (met : HandsOver handover .report) :
    (handover.turn encode sizes .report).OnlyExternal := by
  rw [turn]
  split
  · rename_i reporting
    exact fun _ group waits => met reporting group waits
  · exact kept

theorem heartbeat_connected (external : ExternalControlManager)
    (connected : external.processHeartbeat.isExternalControlConnected = true) : external.isExternalControlConnected = true := by
  rw [ExternalControlManager.processHeartbeat] at connected
  split at connected
  · simpa [ExternalControlManager.isExternalControlConnected] using by assumption
  · exact connected

theorem quiet_turn (handover : Handover) (next : Turn) (kept : handover.OnlyExternal)
    (quiet : (∀ messages, next ≠ .robot messages) ∧ next ≠ .report) : (handover.turn encode sizes next).OnlyExternal := by
  cases next with
  | robot messages => exact absurd rfl (quiet.1 messages)
  | report => exact absurd rfl quiet.2
  | receive msg =>
      rw [turn]
      split
      · refine only_external_kept handover _ kept id fun group waits => ?_
        by_cases same : group = msg.group
        · have source := waits.2
          simp [same] at source
        · refine ⟨?_, ?_⟩
          · simpa [NetworkManager.storeReceived, Function.update_of_ne same] using waits.1
          · simpa [Function.update_of_ne same] using waits.2
      · exact kept
  | processHeartbeat =>
      rw [turn]
      split
      · exact kept
      · refine only_external_kept handover _ kept ?_ fun group waits => waits
        exact heartbeat_connected handover.external
  | getMessage group =>
      rw [turn]
      split
      · exact kept
      · refine only_external_kept handover _ kept id fun other waits => ⟨?_, waits.2⟩
        have held := waits.1
        rw [NetworkManager.getMessage] at held
        split at held
        · by_cases same : other = group
          · simp [same] at held
          · simpa [Function.update_of_ne same] using held
        · exact held

theorem hands_over_step (handover : Handover) (next : Turn) (kept : handover.OnlyExternal) (met : HandsOver handover next) :
    ConsumesExternal handover next ∧ (handover.turn encode sizes next).OnlyExternal := by
  refine ⟨?_, ?_⟩
  · intro external group bytes returned
    cases next with
    | getMessage asked =>
        rw [delivered, get_message_some] at returned
        split at returned
        · cases returned
        · obtain ⟨held, waiting, same⟩ := Option.map_eq_some_iff.mp returned
          obtain rfl := congrArg Prod.fst same
          cases source : handover.source asked with
          | pump => rfl
          | failover =>
              have waits : handover.failoverWaits asked := ⟨by rw [waiting]; rfl, source⟩
              exact absurd waits (kept external asked)
    | robot messages | receive msg | report | processHeartbeat => cases returned
  · cases next with
    | robot messages => exact robot_turn_kept encode sizes handover messages kept met
    | report => exact report_turn_kept encode sizes handover kept met
    | receive msg => exact quiet_turn encode sizes handover _ kept ⟨by simp, by simp⟩
    | processHeartbeat => exact quiet_turn encode sizes handover _ kept ⟨by simp, by simp⟩
    | getMessage group => exact quiet_turn encode sizes handover _ kept ⟨by simp, by simp⟩

theorem waiting_consumed (handover : Handover) (group : String) (external : handover.isExternalControl = true)
    (reported : handover.reporting = false) (waits : handover.failoverWaits group) :
    ¬ ConsumesExternal handover (.getMessage group) := by
  intro consumed
  obtain ⟨bytes, held⟩ := Option.isSome_iff_exists.mp waits.1
  have returned : handover.delivered (.getMessage group) = some (group, bytes) := by
    simp [delivered, reported, get_message_some, held]
  have pump := consumed external group bytes returned
  rw [waits.2] at pump
  cases pump

theorem consumed_of_not_hands_over (handover : Handover) (next : Turn) (broken : ¬ HandsOver handover next) :
    ∃ group, ¬ Runs.EachStep (turn encode sizes) ConsumesExternal handover [next, .report, .getMessage group] := by
  have reported : ∀ state : Handover, state.isExternalControl = true →
      (state.turn encode sizes .report).isExternalControl = true ∧ (state.turn encode sizes .report).reporting = false ∧
        ∀ group, (state.turn encode sizes .report).failoverWaits group ↔ state.failoverWaits group := by
    intro state external
    rw [turn]
    split
    · exact ⟨rfl, rfl, fun group => Iff.rfl⟩
    · rename_i idle
      exact ⟨external, Bool.eq_false_iff.mpr idle, fun group => Iff.rfl⟩
  have polled : ∀ group, (handover.turn encode sizes next).isExternalControl = true →
      (handover.turn encode sizes next).failoverWaits group →
        ¬ Runs.EachStep (turn encode sizes) ConsumesExternal handover [next, .report, .getMessage group] := by
    intro group external waits run
    obtain ⟨connected, idle, same⟩ := reported _ external
    exact waiting_consumed _ group connected idle ((same group).mpr waits) run.2.2.1
  cases next with
  | robot messages =>
      rw [HandsOver, Classical.not_imp, Bool.not_eq_false] at broken
      obtain ⟨message, rest, remaining⟩ := List.exists_cons_of_ne_nil broken.1
      have placed : handover.turn encode sizes (.robot messages) =
          { handover with
            network := handover.network.placeFailoverMessage message.group (encode message)
            toPlace := rest
            source := Function.update handover.source message.group .failover } := by
        simp only [turn, robotTurn, remaining]
      refine ⟨message.group, polled message.group ?_ ?_⟩
      · rw [placed]
        exact broken.2
      · rw [placed]
        simp [failoverWaits, NetworkManager.placeFailoverMessage]
  | report =>
      rw [HandsOver, Classical.not_imp, not_forall] at broken
      obtain ⟨reporting, group, waits⟩ := broken
      refine ⟨group, polled group ?_ ?_⟩
      · rw [turn, if_pos reporting]
        rfl
      · rw [turn, if_pos reporting]
        exact not_not.mp waits
  | receive msg => exact absurd trivial broken
  | processHeartbeat => exact absurd trivial broken
  | getMessage group => exact absurd trivial broken

end Handover

theorem consumes_external_of_hands_over (encode : FailoverMessage → Bytes) (sizes : EntrySizes) (turns : List Turn)
    (met : Runs.EachStep (Handover.turn encode sizes) Handover.HandsOver Handover.start turns) :
    Runs.EachStep (Handover.turn encode sizes) Handover.ConsumesExternal Handover.start turns :=
  Runs.each_step_of_invariant (Handover.turn encode sizes) Handover.OnlyExternal _ _ (Handover.hands_over_step encode sizes)
    turns _ (fun connected => nomatch connected) met

def oneDriveMotor : FailoverMessageManager := ⟨[⟨1, .talonFX, .velocity, 0, 0⟩], [], [1], [2], 1⟩

def smallEntries : EntrySizes := ⟨fun _ => 2, fun _ => 2⟩

-- Both messages of failover are taken before the external controller is back.
theorem consumes_external_after_empty_store :
    Runs.EachStep (Handover.turn (fun _ => [7]) smallEntries) Handover.ConsumesExternal Handover.start
      [.robot oneDriveMotor, .robot oneDriveMotor, .robot oneDriveMotor, .getMessage "motorcontrol", .getMessage "solenoidcontrol",
        .receive ⟨"motorcontrol", [8]⟩, .report, .getMessage "motorcontrol"] := by
  refine consumes_external_of_hands_over (fun _ => [7]) smallEntries _
    ⟨fun placing => absurd rfl placing, fun _ => by decide, fun _ => by decide, trivial, trivial, trivial, ?_, trivial, trivial⟩
  intro _ group waits
  by_cases own : group = "motorcontrol"
  · subst own
    exact absurd waits.2 (by decide)
  · by_cases other : group = "solenoidcontrol"
    · subst other
      exact absurd waits.1 (by decide)
    · have stored := waits.1
      simp [own, other, Handover.turn, Handover.robotTurn, Handover.start, publishMessages, placeIfFits, oneDriveMotor,
        smallEntries, byteSizeLong, bufSize, Handover.isExternalControl, ExternalControlManager.isExternalControlConnected,
        NetworkManager.placeFailoverMessage, NetworkManager.storeReceived, NetworkManager.getMessage, FailoverMessage.group,
        EAGAIN] at stored

-- ApplyMotorConfigTask polls every 100 ms: the external controller is back before it does.
theorem failover_configuration_consumed :
    ¬ ∀ (encode : FailoverMessage → Bytes) (sizes : EntrySizes) (turns : List Turn),
      Runs.EachStep (Handover.turn encode sizes) Handover.ConsumesExternal Handover.start turns := by
  intro always
  let messages : FailoverMessageManager := { oneDriveMotor with mLoopCounter := 0 }
  have clean := always (fun _ => [7]) smallEntries
    [.robot messages, .robot messages, .robot messages, .robot messages, .robot messages, .receive ⟨"motorcontrol", [8]⟩,
      .report, .getMessage "motorconfig"]
  have consumed := clean.2.2.2.2.2.2.2.1 (by decide +kernel) "motorconfig" [7]
  revert consumed
  decide +kernel

end RioPassthru
