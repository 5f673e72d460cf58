import RioPassthru.Protobuf.DifferentialUpdateReporter

set_option autoImplicit false

namespace RioPassthru

open Protobuf

abbrev LEDControlData := Typed ledControlFullName

inductive LEDControlMode where
  | Static
  | Animated
  | other
deriving DecidableEq, Repr

inductive LEDAnimationType where
  | ColorFlow
  | Fire
  | Larson
  | Rainbow
  | RGBFade
  | SingleFade
  | Twinkle
  | TwinkleOff
  | Strobe
  | Morse
  | other
deriving DecidableEq, Repr

structure RGBWNumbers where
  r : Nat
  g : Nat
  b : Nat
  w : Nat

structure LEDColorNumbers where
  rgbwColor : Nat
  startIndex : Nat
  numLeds : Nat

structure LEDAnimationNumbers where
  animationType : Nat
  slot : Nat
  color : Nat
  brightness : Nat
  speed : Nat
  numLed : Nat
  direction : Nat
  offset : Nat

-- What the .proto files assign, which are not part of the repository: the numbers of the
-- fields without a FindFieldByNumber, and which constants of the two enums a number is.
structure LEDProto where
  id : Nat
  canNetwork : Nat
  rgbw : RGBWNumbers
  ledColor : LEDColorNumbers
  animation : LEDAnimationNumbers
  ledControlMode : Int → LEDControlMode
  animationType : Int → LEDAnimationType

structure RGBWColor where
  r : Option Scalar
  g : Option Scalar
  b : Option Scalar
  w : Option Scalar
deriving DecidableEq, Repr

def rgbwColor (numbers : RGBWNumbers) (color : Message) : RGBWColor :=
  ⟨color.scalar numbers.r, color.scalar numbers.g, color.scalar numbers.b, color.scalar numbers.w⟩

namespace LEDControlData

variable (proto : LEDProto) (m : LEDControlData)

def id : Int := toInt (m.message.scalar proto.id)
def canNetwork : Int := toInt (m.message.scalar proto.canNetwork)
def ledType : Option Scalar := m.message.scalar 3
def vbatConfig : Option Scalar := m.message.scalar 4
def vbatDutyCycle : Option Scalar := m.message.scalar 5
def ledControlMode : LEDControlMode := proto.ledControlMode (toInt (m.message.scalar 6))
def color : Message := m.message.nested 7
def animation : List Message := m.message.repeatedMessages 8

end LEDControlData

def LEDProto.slot (proto : LEDProto) (an : Message) : Int := toInt (an.scalar proto.animation.slot)

inductive CTREAnimation where
  | colorFlow (color : RGBWColor) (speed numLed direction offset : Option Scalar)
  | fire (brightness speed numLed : Option Scalar) (sparking cooling : Double) (reverseDirection offset : Option Scalar)
  | larson (color : RGBWColor) (speed numLed mode : Option Scalar) (size : Nat) (offset : Option Scalar)
  | rainbow (brightness speed numLed reverseDirection offset : Option Scalar)
  | rgbFade (brightness speed numLed offset : Option Scalar)
  | singleFade (color : RGBWColor) (speed numLed offset : Option Scalar)
  | twinkle (color : RGBWColor) (speed numLed : Option Scalar) (percent : Nat) (offset : Option Scalar)
  | twinkleOff (color : RGBWColor) (speed numLed : Option Scalar) (percent : Nat) (offset : Option Scalar)
  | strobe (color : RGBWColor) (speed numLed offset : Option Scalar)
deriving DecidableEq, Repr

inductive LEDCall where
  | configLEDType (type : Option Scalar)
  | configVBatOutput (mode : Option Scalar)
  | modulateVBatOutput (dutyCyclePerc : Option Scalar)
  | setLEDs (color : RGBWColor) (startIndex numLeds : Option Scalar)
  | clearAnimation (slot : Int)
  | animate (animation : CTREAnimation) (slot : Int)
deriving DecidableEq, Repr

def animationLookup (proto : LEDProto) (a : Message) : Option CTREAnimation :=
  let numbers := proto.animation
  let color := rgbwColor proto.rgbw (a.nested numbers.color)
  let brightness := a.scalar numbers.brightness
  let speed := a.scalar numbers.speed
  let numLed := a.scalar numbers.numLed
  let direction := a.scalar numbers.direction
  let offset := a.scalar numbers.offset
  match proto.animationType (toInt (a.scalar numbers.animationType)) with
  | .ColorFlow => some (.colorFlow color speed numLed direction offset)
  | .Fire => some (.fire brightness speed numLed 1 1 direction offset)
  | .Larson => some (.larson color speed numLed direction 7 offset)
  | .Rainbow => some (.rainbow brightness speed numLed direction offset)
  | .RGBFade => some (.rgbFade brightness speed numLed offset)
  | .SingleFade => some (.singleFade color speed numLed offset)
  | .Twinkle => some (.twinkle color speed numLed 30 offset)
  | .TwinkleOff => some (.twinkleOff color speed numLed 30 offset)
  | .Strobe => some (.strobe color speed numLed offset)
  | .Morse | .other => none

end RioPassthru
