import RioPassthru.LED.LEDTasks

set_option autoImplicit false

namespace RioPassthru

open Protobuf

namespace CANdleManager

variable (candles : CANdleManager) (id : Nat)

def standingMsg : LEDControlData := candles.mPrevCANdleMsgs.getD id defaultLEDControlData

theorem prev_candle_msg_standing : (candles.prevCANdleMsg id).2 = candles.standingMsg id := by
  rw [prevCANdleMsg, standingMsg, Std.ExtTreeMap.getD_eq_getD_getElem?]
  cases candles.mPrevCANdleMsgs[id]? <;> rfl

theorem prev_candle_msg_known (known : id ∈ candles.mPrevCANdleMsgs) : (candles.prevCANdleMsg id).1 = candles := by
  obtain ⟨prev, found⟩ := get_of_mem candles.mPrevCANdleMsgs _ known
  rw [prevCANdleMsg, found]

theorem prev_candle_msg_looked : id ∈ (candles.prevCANdleMsg id).1.mPrevCANdleMsgs := by
  rw [prevCANdleMsg]
  cases found : candles.mPrevCANdleMsgs[id]? with
  | some prev => exact Std.ExtTreeMap.mem_iff_isSome_getElem?.mpr (by rw [found]; rfl)
  | none => exact Std.ExtTreeMap.mem_insert_self

theorem prev_candle_msg_list : (candles.prevCANdleMsg id).1.mRegisteredCANdleList = candles.mRegisteredCANdleList := by
  rw [prevCANdleMsg]
  cases candles.mPrevCANdleMsgs[id]? <;> rfl

theorem prev_candle_msg_again : (candles.prevCANdleMsg id).1.standingMsg id = candles.standingMsg id := by
  rw [prevCANdleMsg]
  cases found : candles.mPrevCANdleMsgs[id]? with
  | some prev => rfl
  | none =>
      rw [standingMsg, standingMsg, Std.ExtTreeMap.getD_insert_self, Std.ExtTreeMap.getD_eq_getD_getElem?, found]
      rfl

theorem prev_candle_msg_set (m : LEDControlData) :
    (candles.prevCANdleMsg id).1.setPrevCANdleConfigMsg id m = candles.setPrevCANdleConfigMsg id m := by
  rw [prevCANdleMsg]
  cases candles.mPrevCANdleMsgs[id]? with
  | some prev => rfl
  | none =>
      simp only [setPrevCANdleConfigMsg, CANdleManager.mk.injEq, true_and]
      apply Std.ExtTreeMap.ext_getElem?
      intro key
      simp only [Std.ExtTreeMap.getElem?_insert]
      split <;> rfl

theorem on_candle_of_mem (held : id ∈ candles.mRegisteredCANdleList) : ∃ mCtrl, candles.onCANdle id = some mCtrl :=
  get_of_mem candles.mRegisteredCANdleList _ held

end CANdleManager

namespace ApplyLEDControlTask

variable (proto : LEDProto)

def clearWrites (prev : LEDControlData) : List (List LEDCall) := prev.animation.map fun an => [.clearAnimation (proto.slot an)]

def modeWrites (prev m : LEDControlData) : List (List LEDCall) :=
  match m.ledControlMode proto with
  | .Static => clearWrites proto prev ++ colorWrites proto m
  | .Animated => clearWrites proto prev ++ animationWrites proto m
  | .other => []

def configWrites (m : LEDControlData) : List (List LEDCall) :=
  [[.configLEDType m.ledType], [.configVBatOutput m.vbatConfig], [.modulateVBatOutput m.vbatDutyCycle]]

def fieldWrites (prev m : LEDControlData) (number : Nat) : List (List LEDCall) :=
  if number = 3 then [[.configLEDType m.ledType]]
  else if number = 4 then [[.configVBatOutput m.vbatConfig]]
  else if number = 5 then [[.modulateVBatOutput m.vbatDutyCycle]]
  else if number = 6 ∨ number = 7 ∨ number = 8 then modeWrites proto prev m
  else []

def callWrites (prev m : LEDControlData) (call : UpdateCall) : List (List LEDCall) :=
  if call.message.fullName = ledControlFullName then fieldWrites proto prev m call.field.number else []

def differentialWrites (prev m : LEDControlData) : List (List LEDCall) :=
  (mDiffReporter.compareWith prev.message m.message).flatMap (callWrites proto prev m)

def entryWrites (size : Nat) (candles : CANdleManager) (m : LEDControlData) : List (List LEDCall) :=
  let prev := candles.standingMsg (entryId proto m)
  if size = candles.mPrevCANdleMsgs.size then differentialWrites proto prev m else configWrites m ++ modeWrites proto prev m

variable (candles : CANdleManager) (m : LEDControlData) (held : entryId proto m ∈ candles.mRegisteredCANdleList)

include held

theorem update_after_clearing_spec (writes : LEDControlData → List (List LEDCall)) :
    updateAfterClearing proto writes candles m =
      ((candles.prevCANdleMsg (entryId proto m)).1,
        clearWrites proto (candles.standingMsg (entryId proto m)) ++ writes m) := by
  obtain ⟨mCtrl, found⟩ := candles.on_candle_of_mem _ held
  obtain ⟨same, still⟩ := (candles.prevCANdleMsg (entryId proto m)).1.on_candle_of_mem (entryId proto m)
    (by rw [CANdleManager.prev_candle_msg_list]; exact held)
  rw [updateAfterClearing, clearAllAnimations, found]
  simp only [still, CANdleManager.prev_candle_msg_standing, clearWrites]

theorem update_mode_spec :
    (updateMode proto candles m).2 = modeWrites proto (candles.standingMsg (entryId proto m)) m ∧
      ((updateMode proto candles m).1 = candles ∨ (updateMode proto candles m).1 = (candles.prevCANdleMsg (entryId proto m)).1) := by
  rw [updateMode, modeWrites]
  cases m.ledControlMode proto with
  | Static =>
      have spec := update_after_clearing_spec proto candles m held (colorWrites proto)
      exact ⟨congrArg Prod.snd spec, Or.inr (congrArg Prod.fst spec)⟩
  | Animated =>
      have spec := update_after_clearing_spec proto candles m held (animationWrites proto)
      exact ⟨congrArg Prod.snd spec, Or.inr (congrArg Prod.fst spec)⟩
  | other => exact ⟨rfl, Or.inl rfl⟩

theorem full_update_spec :
    (fullUpdate proto candles m).2 = configWrites m ++ modeWrites proto (candles.standingMsg (entryId proto m)) m ∧
      (fullUpdate proto candles m).1.setPrevCANdleConfigMsg (entryId proto m) m =
        candles.setPrevCANdleConfigMsg (entryId proto m) m := by
  obtain ⟨mCtrl, found⟩ := candles.on_candle_of_mem _ held
  obtain ⟨writes, state⟩ := update_mode_spec proto candles m held
  rw [fullUpdate, found]
  refine ⟨congrArg (configWrites m ++ ·) writes, ?_⟩
  obtain same | looked := state
  · exact congrArg (fun next => next.setPrevCANdleConfigMsg (entryId proto m) m) same
  · rw [show (updateMode proto candles m).1 = _ from looked]
    exact CANdleManager.prev_candle_msg_set candles (entryId proto m) m

theorem update_function_spec (known : entryId proto m ∈ candles.mPrevCANdleMsgs) (number : Nat) :
    updateFunction proto candles m number = (candles, fieldWrites proto (candles.standingMsg (entryId proto m)) m number) := by
  obtain ⟨mCtrl, found⟩ := candles.on_candle_of_mem _ held
  have write : ∀ call, writeTo proto candles m call = (candles, [[call]]) := by
    intro call
    rw [writeTo, found]
  have mode : updateMode proto candles m = (candles, modeWrites proto (candles.standingMsg (entryId proto m)) m) := by
    obtain ⟨writes, state⟩ := update_mode_spec proto candles m held
    rw [CANdleManager.prev_candle_msg_known candles _ known, or_self] at state
    exact Prod.ext state writes
  rw [updateFunction, fieldWrites, write, write, write, mode]
  split_ifs <;> rfl

omit held

theorem updates_spec (prev : LEDControlData) (calls : List UpdateCall)
    (called : ∀ call ∈ calls, call ∈ mDiffReporter.compareWith prev.message m.message)
    (held : entryId proto m ∈ candles.mRegisteredCANdleList) (known : entryId proto m ∈ candles.mPrevCANdleMsgs)
    (standing : candles.standingMsg (entryId proto m) = prev) :
    updatesOf proto candles calls = (candles, calls.flatMap (callWrites proto prev m)) := by
  induction calls with
  | nil => rfl
  | cons call rest ih =>
      obtain ⟨here, later⟩ := List.forall_mem_cons.mp called
      have first : updateOf proto candles call = (candles, callWrites proto prev m call) := by
        rw [updateOf, typed_of_called mDiffReporter prev m call here, callWrites]
        by_cases typed : call.message.fullName = ledControlFullName
        · rw [if_pos typed, if_pos typed, ← standing]
          exact update_function_spec proto candles m held known call.field.number
        · rw [if_neg typed, if_neg typed]
      rw [updatesOf, first, ih later, List.flatMap_cons]

theorem register_prev (id : Nat) (canInterface : Int) :
    (candles.registerCANdle id canInterface).mPrevCANdleMsgs = candles.mPrevCANdleMsgs := by
  rw [CANdleManager.registerCANdle]
  split
  · split <;> rfl
  · rfl

theorem apply_entry_spec (size : Nat) :
    applyEntry proto size candles m =
      let known := candles.registerCANdle (entryId proto m) (m.canNetwork proto)
      if entryId proto m ∈ known.mRegisteredCANdleList then
        (known.setPrevCANdleConfigMsg (entryId proto m) m,
          [⟨entryId proto m, !candles.candleExists (entryId proto m), decide (size = candles.mPrevCANdleMsgs.size),
            entryWrites proto size candles m⟩])
      else (known, []) := by
  have recorded := register_prev candles (entryId proto m) (m.canNetwork proto)
  have standing : (candles.registerCANdle (entryId proto m) (m.canNetwork proto)).standingMsg (entryId proto m) =
      candles.standingMsg (entryId proto m) := by
    rw [CANdleManager.standingMsg, CANdleManager.standingMsg, recorded]
  rw [applyEntry, entryWrites]
  generalize candles.registerCANdle (entryId proto m) (m.canNetwork proto) = known at recorded standing
  by_cases held : entryId proto m ∈ known.mRegisteredCANdleList
  · have exists_ : known.candleExists (entryId proto m) = true := Std.ExtTreeMap.contains_iff_mem.mpr held
    simp only [exists_, if_true, if_pos held, recorded]
    by_cases same : size = candles.mPrevCANdleMsgs.size
    · have looked : entryId proto m ∈ (known.prevCANdleMsg (entryId proto m)).1.mRegisteredCANdleList := by
        rw [CANdleManager.prev_candle_msg_list]
        exact held
      have updates := updates_spec proto (known.prevCANdleMsg (entryId proto m)).1 m (candles.standingMsg (entryId proto m))
        (mDiffReporter.compareWith (candles.standingMsg (entryId proto m)).message m.message) (fun _ member => member) looked
        (CANdleManager.prev_candle_msg_looked known _) ((CANdleManager.prev_candle_msg_again known _).trans standing)
      simp only [if_pos same, decide_eq_true same, CANdleManager.prev_candle_msg_standing, standing, updates,
        CANdleManager.prev_candle_msg_set, differentialWrites]
    · obtain ⟨writes, state⟩ := full_update_spec proto known m held
      simp only [if_neg same, decide_eq_false same, state, writes, standing]
  · have absent : known.candleExists (entryId proto m) = false :=
      Bool.eq_false_iff.mpr fun contained => held (Std.ExtTreeMap.contains_iff_mem.mp contained)
    simp only [absent, if_neg held, Bool.false_eq_true, if_false]

end ApplyLEDControlTask

end RioPassthru
