import RioPassthru.LED.LEDEntries
import RioPassthru.Lib.Runs

set_option autoImplicit false

namespace RioPassthru

open Protobuf

def slotsAfterCall (running : Finset Int) : LEDCall → Finset Int
  | .clearAnimation slot => running.erase slot
  | .animate _ slot => insert slot running
  | _ => running

def slotsAfter (running : Finset Int) (writes : List (List LEDCall)) : Finset Int :=
  writes.flatten.foldl slotsAfterCall running

def LEDAnimationType.supported : LEDAnimationType → Bool
  | .Morse | .other => false
  | _ => true

section Slots

variable (proto : LEDProto)

def isSupported (a : Message) : Bool :=
  (proto.animationType (toInt (a.scalar proto.animation.animationType))).supported

def slotsOf (animation : List Message) : Finset Int := (animation.map proto.slot).toFinset

def requestedSlots (m : LEDControlData) : Finset Int :=
  match m.ledControlMode proto with
  | .Animated => slotsOf proto (m.animation.filter (isSupported proto))
  | _ => ∅

def changesMode (call : UpdateCall) : Bool :=
  decide (call.message.fullName = ledControlFullName) && decide (call.field.number ∈ [6, 7, 8])

theorem animation_lookup_iff (a : Message) : (animationLookup proto a).isSome = isSupported proto a := by
  rw [animationLookup, isSupported]
  cases proto.animationType (toInt (a.scalar proto.animation.animationType)) <;> rfl

theorem slots_after_append (running : Finset Int) (first second : List (List LEDCall)) :
    slotsAfter running (first ++ second) = slotsAfter (slotsAfter running first) second := by
  rw [slotsAfter, List.flatten_append, List.foldl_append]
  rfl

theorem slots_after_clear (prev : LEDControlData) (running : Finset Int) :
    slotsAfter running (ApplyLEDControlTask.clearWrites proto prev) = running \ slotsOf proto prev.animation := by
  rw [ApplyLEDControlTask.clearWrites]
  generalize prev.animation = animation
  induction animation generalizing running with
  | nil => simp [slotsAfter, slotsOf]
  | cons an rest ih =>
      rw [List.map_cons, ← List.singleton_append, slots_after_append, ih]
      ext slot
      simp [slotsAfter, slotsAfterCall, slotsOf]
      tauto

theorem slots_after_animate (m : LEDControlData) (running : Finset Int) :
    slotsAfter running (ApplyLEDControlTask.animationWrites proto m) =
      running ∪ slotsOf proto (m.animation.filter (isSupported proto)) := by
  rw [ApplyLEDControlTask.animationWrites]
  generalize m.animation = animation
  induction animation generalizing running with
  | nil => simp [slotsAfter, slotsOf]
  | cons a rest ih =>
      have known := animation_lookup_iff proto a
      cases found : animationLookup proto a with
      | none =>
          rw [found] at known
          rw [List.filterMap_cons_none (by rw [found]; rfl), List.filter_cons_of_neg (by rw [← known]; decide), ih]
      | some animation =>
          rw [found] at known
          rw [List.filterMap_cons_some (by rw [found]; rfl), List.filter_cons_of_pos known.symm,
            ← List.singleton_append, slots_after_append, ih]
          ext slot
          simp [slotsAfter, slotsAfterCall, slotsOf]

theorem slots_after_mode (prev m : LEDControlData) (mode : m.ledControlMode proto ≠ .other) (running : Finset Int)
    (within : running ⊆ slotsOf proto prev.animation ∪ requestedSlots proto m) :
    slotsAfter running (ApplyLEDControlTask.modeWrites proto prev m) = requestedSlots proto m := by
  rw [requestedSlots] at within ⊢
  rw [ApplyLEDControlTask.modeWrites]
  cases wanted : m.ledControlMode proto with
  | other => exact absurd wanted mode
  | Static =>
      simp only [wanted, Finset.union_empty] at within ⊢
      rw [slots_after_append, slots_after_clear, Finset.sdiff_eq_empty_iff_subset.mpr within]
      rfl
  | Animated =>
      simp only [wanted] at within ⊢
      rw [slots_after_append, slots_after_clear, slots_after_animate, Finset.union_eq_right]
      intro slot kept
      obtain ⟨was, uncleared⟩ := Finset.mem_sdiff.mp kept
      obtain cleared | asked := Finset.mem_union.mp (within was)
      · exact absurd cleared uncleared
      · exact asked

theorem slots_after_field (prev m : LEDControlData) (mode : m.ledControlMode proto ≠ .other) (running : Finset Int)
    (within : running ⊆ slotsOf proto prev.animation ∪ requestedSlots proto m) (number : Nat) :
    slotsAfter running (ApplyLEDControlTask.fieldWrites proto prev m number) =
      if number ∈ [6, 7, 8] then requestedSlots proto m else running := by
  have applied := slots_after_mode proto prev m mode running within
  rw [ApplyLEDControlTask.fieldWrites]
  by_cases shown : number = 6 ∨ number = 7 ∨ number = 8
  · have listed : number ∈ [6, 7, 8] := by simpa using shown
    rw [if_neg (by omega), if_neg (by omega), if_neg (by omega), if_pos shown, if_pos listed]
    exact applied
  · have unlisted : number ∉ [6, 7, 8] := by simpa using shown
    rw [if_neg shown, if_neg unlisted]
    split_ifs <;> rfl

-- Induction over the calls: the first one that changes the mode leaves the message's slots,
-- and so does each after it.
theorem slots_after_calls (prev m : LEDControlData) (mode : m.ledControlMode proto ≠ .other) (calls : List UpdateCall)
    (running : Finset Int) (within : running ⊆ slotsOf proto prev.animation ∪ requestedSlots proto m) :
    slotsAfter running (calls.flatMap (ApplyLEDControlTask.callWrites proto prev m)) =
      if calls.any changesMode then requestedSlots proto m else running := by
  induction calls generalizing running with
  | nil => rfl
  | cons call rest ih =>
      have first : slotsAfter running (ApplyLEDControlTask.callWrites proto prev m call) =
          if changesMode call then requestedSlots proto m else running := by
        rw [ApplyLEDControlTask.callWrites, changesMode]
        by_cases typed : call.message.fullName = ledControlFullName
        · simp only [if_pos typed, decide_eq_true typed, Bool.true_and, decide_eq_true_eq]
          exact slots_after_field proto prev m mode running within call.field.number
        · simp only [if_neg typed, decide_eq_false typed, Bool.false_and]
          rfl
      rw [List.flatMap_cons, slots_after_append, first, List.any_cons]
      cases changesMode call with
      | false => exact ih running within
      | true =>
          rw [if_pos rfl, ih _ Finset.subset_union_right, ite_self, Bool.true_or]
          rfl

def ModeSeen (prev m : LEDControlData) : Prop :=
  ∃ number ∈ [6, 7, 8], Seen (prev.message.field number) (m.message.field number)

theorem changes_mode_iff (prev m : LEDControlData) :
    (ApplyLEDControlTask.mDiffReporter.compareWith prev.message m.message).any changesMode = true ↔ ModeSeen prev m := by
  rw [List.any_eq_true, ModeSeen]
  refine ⟨?_, ?_⟩
  · intro ⟨call, called, changes⟩
    rw [changesMode, Bool.and_eq_true, decide_eq_true_eq, decide_eq_true_eq] at changes
    obtain ⟨_, number, field, _, seen⟩ :=
      compare_with_typed_call ApplyLEDControlTask.mDiffReporter prev m call called changes.1
    have listed := changes.2
    rw [field] at listed
    exact ⟨number, listed, seen⟩
  · intro ⟨number, listed, seen⟩
    have registered : ∀ number ∈ [6, 7, 8],
        ApplyLEDControlTask.mDiffReporter.registered ⟨ledControlFullName, number⟩ = true := by decide
    refine ⟨⟨⟨ledControlFullName, number⟩, m.message⟩, ?_, ?_⟩
    · exact (compare_with_called_iff ApplyLEDControlTask.mDiffReporter prev m number (registered number listed)).mpr seen
    · rw [changesMode, decide_eq_true m.typed, decide_eq_true listed]
      rfl

theorem register_keeps (candles : CANdleManager) (id key : Nat) (canInterface : Int)
    (held : key ∈ candles.mRegisteredCANdleList) : key ∈ (candles.registerCANdle id canInterface).mRegisteredCANdleList := by
  grind [CANdleManager.registerCANdle, CANdleManager.beat]

def onlyEntry (m : LEDControlData) : LEDInput := ⟨some [m], true⟩

theorem run_only_entry (candles : CANdleManager) (m : LEDControlData)
    (held : ApplyLEDControlTask.entryId proto m ∈ candles.mRegisteredCANdleList) :
    (ApplyLEDControlTask.run proto candles (onlyEntry m)).2.flatMap LEDEntryRun.writes =
        ApplyLEDControlTask.entryWrites proto 1 candles m ∧
      ApplyLEDControlTask.entryId proto m ∈ (ApplyLEDControlTask.run proto candles (onlyEntry m)).1.mRegisteredCANdleList ∧
      (ApplyLEDControlTask.run proto candles (onlyEntry m)).1.standingMsg (ApplyLEDControlTask.entryId proto m) = m := by
  have kept := register_keeps (candles.setCANdlesConfigMsg proto [m]) (ApplyLEDControlTask.entryId proto m) _
    (LEDControlData.canNetwork proto m) held
  have spec := ApplyLEDControlTask.apply_entry_spec proto (candles.setCANdlesConfigMsg proto [m]) m 1
  simp only [if_pos kept] at spec
  simp only [ApplyLEDControlTask.run, onlyEntry, if_true, ApplyLEDControlTask.applyEntries, List.length_singleton, spec]
  refine ⟨?_, kept, ?_⟩
  · simp only [List.append_nil, List.flatMap_singleton]
    rfl
  · rw [CANdleManager.standingMsg, CANdleManager.setPrevCANdleConfigMsg]
    exact Std.ExtTreeMap.getD_insert_self

structure LEDDevice (id : Nat) where
  candles : CANdleManager
  registered : id ∈ candles.mRegisteredCANdleList
  running : Finset Int

abbrev ModeMessage (id : Nat) :=
  { m : LEDControlData // ApplyLEDControlTask.entryId proto m = id ∧ m.ledControlMode proto ≠ .other }

namespace LEDDevice

variable {id : Nat} (device : LEDDevice id) (m : ModeMessage proto id)

theorem entry_registered : ApplyLEDControlTask.entryId proto m.1 ∈ device.candles.mRegisteredCANdleList := by
  rw [m.2.1]
  exact device.registered

def process : LEDDevice id where
  candles := (ApplyLEDControlTask.run proto device.candles (onlyEntry m.1)).1
  registered := by
    have kept := (run_only_entry proto device.candles m.1 (entry_registered proto device m)).2.1
    rw [m.2.1] at kept
    exact kept
  running := slotsAfter device.running
    ((ApplyLEDControlTask.run proto device.candles (onlyEntry m.1)).2.flatMap LEDEntryRun.writes)

def RunsRequested : Prop := (device.process proto m).running = requestedSlots proto m.1

def FollowsMessage : Prop :=
  device.candles.mPrevCANdleMsgs.size ≠ 1 ∨ ModeSeen (device.candles.standingMsg id) m.1 ∨
    device.running = requestedSlots proto m.1

def Clearable : Prop := device.running ⊆ slotsOf proto (device.candles.standingMsg id).animation

theorem process_running (kept : device.Clearable proto) (applied : device.candles.mPrevCANdleMsgs.size ≠ 1 ∨
      ModeSeen (device.candles.standingMsg id) m.1) :
    (device.process proto m).running = requestedSlots proto m.1 := by
  have within : device.running ⊆ slotsOf proto (device.candles.standingMsg id).animation ∪ requestedSlots proto m.1 :=
    kept.trans Finset.subset_union_left
  rw [process, (run_only_entry proto device.candles m.1 (entry_registered proto device m)).1,
    ApplyLEDControlTask.entryWrites, m.2.1]
  by_cases full : device.candles.mPrevCANdleMsgs.size ≠ 1
  · rw [if_neg (Ne.symm full), slots_after_append]
    exact slots_after_mode proto _ m.1 m.2.2 device.running within
  · have seen := (changes_mode_iff _ m.1).mpr (applied.resolve_left full)
    rw [if_pos (not_not.mp full).symm, ApplyLEDControlTask.differentialWrites,
      slots_after_calls proto _ m.1 m.2.2 _ device.running within, if_pos seen]

theorem process_unheard (kept : device.Clearable proto) (size : device.candles.mPrevCANdleMsgs.size = 1)
    (unheard : ¬ ModeSeen (device.candles.standingMsg id) m.1) : (device.process proto m).running = device.running := by
  have silent : ¬ (ApplyLEDControlTask.mDiffReporter.compareWith (device.candles.standingMsg id).message m.1.message).any
      changesMode = true := fun heard => unheard ((changes_mode_iff _ m.1).mp heard)
  rw [process, (run_only_entry proto device.candles m.1 (entry_registered proto device m)).1,
    ApplyLEDControlTask.entryWrites, m.2.1, if_pos size.symm, ApplyLEDControlTask.differentialWrites,
    slots_after_calls proto _ m.1 m.2.2 _ device.running (kept.trans Finset.subset_union_left), if_neg silent]

theorem runs_requested_iff (kept : device.Clearable proto) :
    device.RunsRequested proto m ↔ device.FollowsMessage proto m := by
  rw [RunsRequested, FollowsMessage, ← or_assoc]
  by_cases applied : device.candles.mPrevCANdleMsgs.size ≠ 1 ∨ ModeSeen (device.candles.standingMsg id) m.1
  · exact iff_of_true (process_running proto device m kept applied) (Or.inl applied)
  · obtain ⟨size, unheard⟩ := not_or.mp applied
    rw [process_unheard proto device m kept (not_not.mp size) unheard]
    exact ⟨Or.inr, fun follows => follows.resolve_left applied⟩

theorem clearable_after (runs : device.RunsRequested proto m) : (device.process proto m).Clearable proto := by
  have standing : (device.process proto m).candles.standingMsg id = m.1 := by
    have recorded := (run_only_entry proto device.candles m.1 (entry_registered proto device m)).2.2
    rw [m.2.1] at recorded
    exact recorded
  rw [Clearable, standing, runs, requestedSlots]
  split
  · intro slot member
    simp only [slotsOf, List.mem_toFinset, List.mem_map, List.mem_filter] at member ⊢
    obtain ⟨a, asked, place⟩ := member
    exact ⟨a, asked.1, place⟩
  · exact Finset.empty_subset _

end LEDDevice

theorem animation_slots_iff (id : Nat) (device : LEDDevice id) (messages : List (ModeMessage proto id)) :
    Runs.EachStep (LEDDevice.process proto) (LEDDevice.RunsRequested proto) { device with running := ∅ } messages ↔
      Runs.EachStep (LEDDevice.process proto) (LEDDevice.FollowsMessage proto) { device with running := ∅ } messages :=
  Runs.each_step_iff_of_invariant (LEDDevice.process proto) (LEDDevice.Clearable proto) _ _ (LEDDevice.runs_requested_iff proto)
    (fun device m kept follows => LEDDevice.clearable_after proto device m
      ((LEDDevice.runs_requested_iff proto device m kept).mpr follows)) messages _ (Finset.empty_subset _)

end Slots

def sampleLEDProto : LEDProto where
  id := 1
  canNetwork := 2
  rgbw := ⟨1, 2, 3, 4⟩
  ledColor := ⟨1, 2, 3⟩
  animation := ⟨1, 2, 3, 4, 5, 6, 7, 8⟩
  ledControlMode := fun number => if number = 0 then .Static else if number = 1 then .Animated else .other
  animationType := fun number => if number = 0 then .ColorFlow else if number = 1 then .Fire else .other

def fireOn (slot : Int) : Value :=
  .message (.mk "ck.LEDAnimation" [] [.singular 1 (.scalar (.int 1)), .singular 2 (.scalar (.int slot))])

def animatedCANdle (animation : List Value) : Message :=
  .mk ledControlFullName [] [.singular 1 (.scalar (.int 7)), .singular 6 (.scalar (.int 1)), .repeated 8 animation]

def twoFires : ModeMessage sampleLEDProto 7 :=
  ⟨⟨animatedCANdle [fireOn 1, fireOn 2], rfl, by decide, by decide⟩, by decide +kernel⟩

def oneFire : ModeMessage sampleLEDProto 7 :=
  ⟨⟨animatedCANdle [fireOn 1], rfl, by decide, by decide⟩, by decide +kernel⟩

def idleCANdle : LEDDevice 7 where
  candles := CANdleManager.empty.registerCANdle 7 0
  registered := by decide +kernel
  running := ∅

-- The removed animation is reported as deleted only, and goes on.
theorem removed_animation_runs_on :
    ¬ ∀ (proto : LEDProto) (id : Nat) (device : LEDDevice id) (messages : List (ModeMessage proto id)),
      Runs.EachStep (LEDDevice.process proto) (LEDDevice.RunsRequested proto) { device with running := ∅ } messages := by
  intro always
  have second := (always sampleLEDProto 7 idleCANdle [twoFires, oneFire]).2.1
  rw [LEDDevice.RunsRequested] at second
  revert second
  decide +kernel

end RioPassthru
