import RioPassthru.LED.LEDControl
import RioPassthru.Lib.Expiry
import RioPassthru.Phoenix.PhoenixHelper

set_option autoImplicit false

namespace RioPassthru

open Protobuf

structure CANdle where
  deviceNumber : Nat
  canNetwork : String
deriving DecidableEq, Repr

structure CANdleManager where
  mRegisteredCANdleList : DeviceMap CANdle
  mRegisteredCANdleHeartbeatList : DeviceMap Int
  mCANdleMsgs : DeviceMap LEDControlData
  mPrevCANdleMsgs : DeviceMap LEDControlData

def defaultLEDControlData : LEDControlData where
  message := .mk ledControlFullName [] []
  typed := rfl
  wellFormed := by decide
  apart := by decide

namespace CANdleManager

def empty : CANdleManager := ⟨∅, ∅, ∅, ∅⟩

def kMaxHeartbeatTicks : Int := 250

variable (candles : CANdleManager)

def setPrevCANdleConfigMsg (id : Nat) (ledControlMsg : LEDControlData) : CANdleManager :=
  { candles with mPrevCANdleMsgs := candles.mPrevCANdleMsgs.insert id ledControlMsg }

def setCANdlesConfigMsg (proto : LEDProto) (candleConfigMsg : List LEDControlData) : CANdleManager :=
  { candles with
    mCANdleMsgs := candleConfigMsg.foldl (fun msgs m => msgs.insert (uint16 (m.id proto)) m) candles.mCANdleMsgs }

-- operator[] on mPrevCANdleMsgs inserts a default message for an id it does not hold.
def prevCANdleMsg (id : Nat) : CANdleManager × LEDControlData :=
  match candles.mPrevCANdleMsgs[id]? with
  | some prev => (candles, prev)
  | none => ({ candles with mPrevCANdleMsgs := candles.mPrevCANdleMsgs.insert id defaultLEDControlData }, defaultLEDControlData)

def beat (id : Nat) : CANdleManager :=
  { candles with mRegisteredCANdleHeartbeatList := candles.mRegisteredCANdleHeartbeatList.insert id kMaxHeartbeatTicks }

def registerCANdle (id : Nat) (canInterface : Int) : CANdleManager :=
  if id < 64 then
    if id ∈ candles.mRegisteredCANdleList then candles.beat id
    else
      beat { candles with
        mRegisteredCANdleList :=
          candles.mRegisteredCANdleList.insert id ⟨id, Phoenix.getCANInterfaceName canInterface⟩ } id
  else candles

def candleExists (id : Nat) : Bool := candles.mRegisteredCANdleList.contains id

def onCANdle (id : Nat) : Option CANdle := candles.mRegisteredCANdleList[id]?

def deleteCANdle (id : Nat) : CANdleManager :=
  { candles with mRegisteredCANdleList := candles.mRegisteredCANdleList.erase id }

def setHeartbeats (beats : DeviceMap Int) : CANdleManager := { candles with mRegisteredCANdleHeartbeatList := beats }

def tick (id : Nat) : CANdleManager :=
  let beats := candles.mRegisteredCANdleHeartbeatList
  let left := beats.getD id 0 - 1
  if left ≤ 0 then (candles.deleteCANdle id).setHeartbeats ((beats.insert id left).erase id)
  else candles.setHeartbeats (beats.insert id left)

def processHeartbeat : CANdleManager := Expiry.loop tick mRegisteredCANdleHeartbeatList candles

end CANdleManager

end RioPassthru
