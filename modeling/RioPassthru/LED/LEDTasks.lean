import RioPassthru.LED.CANdleManager

set_option autoImplicit false

namespace RioPassthru

open Protobuf

-- message is what getMessage and ParseFromArray yield, locked the outcome of try_lock.
structure LEDInput where
  message : Option (List LEDControlData)
  locked : Bool

-- What ApplyLEDControlTask did for one entry of a registered CANdle. created is whether the
-- object was made for this entry. writes are the closures passed to the helper, whose
-- results the task drops; one that succeeds at once makes its call once.
structure LEDEntryRun where
  id : Nat
  created : Bool
  differential : Bool
  writes : List (List LEDCall)
deriving DecidableEq, Repr

namespace ApplyLEDControlTask

variable (proto : LEDProto)

def mDiffReporter : DifferentialUpdateReporter := registeredIn ledControlFullName ledUpdateFields

def entryId (m : LEDControlData) : Nat := uint16 (m.id proto)

def clearAllAnimations (candles : CANdleManager) (id : Nat) : CANdleManager × List (List LEDCall) :=
  match candles.onCANdle id with
  | none => (candles, [])
  | some _ =>
      let looked := candles.prevCANdleMsg id
      (looked.1, looked.2.animation.map fun an => [.clearAnimation (proto.slot an)])

def colorWrites (m : LEDControlData) : List (List LEDCall) :=
  let c := m.color
  [[.setLEDs (rgbwColor proto.rgbw (c.nested proto.ledColor.rgbwColor)) (c.scalar proto.ledColor.startIndex)
    (c.scalar proto.ledColor.numLeds)]]

def animationWrites (m : LEDControlData) : List (List LEDCall) :=
  m.animation.filterMap fun a => (animationLookup proto a).map fun animation => [.animate animation (proto.slot a)]

-- updateColor and updateAnimation clear the animations of the previous message first.
def updateAfterClearing (writes : LEDControlData → List (List LEDCall)) (candles : CANdleManager) (m : LEDControlData) :
    CANdleManager × List (List LEDCall) :=
  let cleared := clearAllAnimations proto candles (entryId proto m)
  match cleared.1.onCANdle (entryId proto m) with
  | none => cleared
  | some _ => (cleared.1, cleared.2 ++ writes m)

def updateColor : CANdleManager → LEDControlData → CANdleManager × List (List LEDCall) :=
  updateAfterClearing proto (colorWrites proto)

def updateAnimation : CANdleManager → LEDControlData → CANdleManager × List (List LEDCall) :=
  updateAfterClearing proto (animationWrites proto)

def updateMode (candles : CANdleManager) (m : LEDControlData) : CANdleManager × List (List LEDCall) :=
  match m.ledControlMode proto with
  | .Static => updateColor proto candles m
  | .Animated => updateAnimation proto candles m
  | .other => (candles, [])

def fullUpdate (candles : CANdleManager) (m : LEDControlData) : CANdleManager × List (List LEDCall) :=
  match candles.onCANdle (entryId proto m) with
  | none => (candles, [])
  | some _ =>
      let changed := updateMode proto candles m
      (changed.1,
        [[.configLEDType m.ledType], [.configVBatOutput m.vbatConfig], [.modulateVBatOutput m.vbatDutyCycle]] ++ changed.2)

def writeTo (candles : CANdleManager) (m : LEDControlData) (call : LEDCall) : CANdleManager × List (List LEDCall) :=
  match candles.onCANdle (entryId proto m) with
  | none => (candles, [])
  | some _ => (candles, [[call]])

def updateFunction (candles : CANdleManager) (m : LEDControlData) (number : Nat) : CANdleManager × List (List LEDCall) :=
  if number = 3 then writeTo proto candles m (.configLEDType m.ledType)
  else if number = 4 then writeTo proto candles m (.configVBatOutput m.vbatConfig)
  else if number = 5 then writeTo proto candles m (.modulateVBatOutput m.vbatDutyCycle)
  else if number = 6 ∨ number = 7 ∨ number = 8 then updateMode proto candles m
  else (candles, [])

def updateOf (candles : CANdleManager) (call : UpdateCall) : CANdleManager × List (List LEDCall) :=
  match getTypedMessage ledControlFullName call.message with
  | none => (candles, [])
  | some m => updateFunction proto candles m call.field.number

def updatesOf (candles : CANdleManager) : List UpdateCall → CANdleManager × List (List LEDCall)
  | [] => (candles, [])
  | call :: rest =>
      let first := updateOf proto candles call
      let later := updatesOf first.1 rest
      (later.1, first.2 ++ later.2)

def applyEntry (size : Nat) (candles : CANdleManager) (m : LEDControlData) : CANdleManager × List LEDEntryRun :=
  let id := entryId proto m
  let known := candles.registerCANdle id (m.canNetwork proto)
  if known.candleExists id then
    let created := !candles.candleExists id
    if size = known.mPrevCANdleMsgs.size then
      let looked := known.prevCANdleMsg id
      let update := updatesOf proto looked.1 (mDiffReporter.compareWith looked.2.message m.message)
      (update.1.setPrevCANdleConfigMsg id m, [⟨id, created, true, update.2⟩])
    else
      let update := fullUpdate proto known m
      (update.1.setPrevCANdleConfigMsg id m, [⟨id, created, false, update.2⟩])
  else (known, [])

def applyEntries (size : Nat) (candles : CANdleManager) : List LEDControlData → CANdleManager × List LEDEntryRun
  | [] => (candles, [])
  | m :: rest =>
      let first := applyEntry proto size candles m
      let later := applyEntries size first.1 rest
      (later.1, first.2 ++ later.2)

def run (candles : CANdleManager) (input : LEDInput) : CANdleManager × List LEDEntryRun :=
  match input.message with
  | some candlesUpdate =>
      if input.locked then
        applyEntries proto candlesUpdate.length (candles.setCANdlesConfigMsg proto candlesUpdate) candlesUpdate
      else (candles, [])
  | none => (candles, [])

end ApplyLEDControlTask

inductive LEDOp where
  | applyLEDControl (input : LEDInput)
  | processHeartbeat

def ledStep (proto : LEDProto) (candles : CANdleManager) : LEDOp → CANdleManager
  | .applyLEDControl input => (ApplyLEDControlTask.run proto candles input).1
  | .processHeartbeat => candles.processHeartbeat

def ledEntryRuns (proto : LEDProto) (candles : CANdleManager) : LEDOp → List LEDEntryRun
  | .applyLEDControl input => (ApplyLEDControlTask.run proto candles input).2
  | .processHeartbeat => []

end RioPassthru
