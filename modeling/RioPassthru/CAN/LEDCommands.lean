import RioPassthru.CAN.CKLEDController

set_option autoImplicit false

namespace RioPassthru

open BitFields Chunks

structure RGBColor where
  white : UInt8
  red : UInt8
  green : UInt8
  blue : UInt8
deriving DecidableEq, Repr

inductive LEDState where
  | OFF
  | FIXED_ON
  | BLINK
  | MORSE
  | FADE
deriving DecidableEq, Repr

def LEDState.number : LEDState → UInt8
  | OFF => 0
  | FIXED_ON => 1
  | BLINK => 2
  | MORSE => 3
  | FADE => 4

namespace APIIndex

def DEFAULT : Nat := 0
def SET_COLOR : Nat := 1
def SET_BRIGHTNESS : Nat := 2
def SET_BLINK : Nat := 3
def SET_DEFAULT_STATE : Nat := 4
def FLOAT_PIXEL : Nat := 5

end APIIndex

-- (value >> shift) & 0xFF of an int.
def byteOf (value : Int) (shift : Nat) : UInt8 := .ofNat (value / 2 ^ shift % 2 ^ 8).toNat

namespace CKLEDController

variable (controller : CKCANDevice)

def packet (apiClass : APIClass) (apiIndex : Nat) (buf : List UInt8) : CKCANPacket :=
  ⟨controller, CKCANDevice.getAPIID apiClass.number apiIndex, buf⟩

def setOn : CKCANPacket := packet controller .FIXED_ON APIIndex.DEFAULT [0]

def setOff : CKCANPacket := packet controller .OFF APIIndex.DEFAULT [0]

def setBlink : CKCANPacket := packet controller .BLINK APIIndex.DEFAULT [0]

def setCommLoss : CKCANPacket := packet controller .COMM_LOSS APIIndex.DEFAULT [0]

def setCommRestored : CKCANPacket := packet controller .COMM_RESTORED APIIndex.DEFAULT [0]

def setFade : CKCANPacket := packet controller .FADE APIIndex.DEFAULT [0]

def setFloatPixel (pixelColor : RGBColor) (pixelCount pixelRepeatSpacing : Int) : CKCANPacket :=
  packet controller .FIXED_ON APIIndex.FLOAT_PIXEL
    [pixelColor.white, pixelColor.red, pixelColor.green, pixelColor.blue, byteOf pixelCount 0, byteOf pixelCount 8,
      byteOf pixelRepeatSpacing 0, byteOf pixelRepeatSpacing 8]

def setColor (rgbColor : RGBColor) : CKCANPacket :=
  packet controller .IDLE APIIndex.SET_COLOR [rgbColor.white, rgbColor.red, rgbColor.green, rgbColor.blue]

def setBrightness (brightness : Int) : CKCANPacket :=
  packet controller .IDLE APIIndex.SET_BRIGHTNESS [byteOf brightness 0]

def setDefaultState (defaultState : LEDState) : CKCANPacket :=
  packet controller .IDLE APIIndex.SET_DEFAULT_STATE [defaultState.number]

def configureBlink (blinkCount blinkRateMs : Int) : CKCANPacket :=
  packet controller .IDLE APIIndex.SET_BLINK [byteOf blinkRateMs 0, byteOf blinkRateMs 8, byteOf blinkCount 0]

end CKLEDController

inductive LEDCommand where
  | setOn
  | setOff
  | setBlink
  | setCommLoss
  | setCommRestored
  | setFade
  | setFloatPixel (pixelColor : RGBColor) (pixelCount pixelRepeatSpacing : Int)
  | setColor (rgbColor : RGBColor)
  | setBrightness (brightness : Int)
  | setDefaultState (defaultState : LEDState)
  | configureBlink (blinkCount blinkRateMs : Int)
  | setMorse (msg : List UInt8)
deriving DecidableEq, Repr

namespace LEDCommand

def packets (controller : CKCANDevice) : LEDCommand → List CKCANPacket
  | setOn => [CKLEDController.setOn controller]
  | setOff => [CKLEDController.setOff controller]
  | setBlink => [CKLEDController.setBlink controller]
  | setCommLoss => [CKLEDController.setCommLoss controller]
  | setCommRestored => [CKLEDController.setCommRestored controller]
  | setFade => [CKLEDController.setFade controller]
  | setFloatPixel pixelColor pixelCount pixelRepeatSpacing =>
      [CKLEDController.setFloatPixel controller pixelColor pixelCount pixelRepeatSpacing]
  | setColor rgbColor => [CKLEDController.setColor controller rgbColor]
  | setBrightness brightness => [CKLEDController.setBrightness controller brightness]
  | setDefaultState defaultState => [CKLEDController.setDefaultState controller defaultState]
  | configureBlink blinkCount blinkRateMs => [CKLEDController.configureBlink controller blinkCount blinkRateMs]
  | setMorse msg => (CKLEDController.setMorse controller (fun _ => true) msg).queued

-- The bytes hold the numbers modulo their widths, and a refused message is not sent.
def onWire : LEDCommand → Option LEDCommand
  | setFloatPixel pixelColor pixelCount pixelRepeatSpacing =>
      some (setFloatPixel pixelColor (pixelCount % 2 ^ 16) (pixelRepeatSpacing % 2 ^ 16))
  | setBrightness brightness => some (setBrightness (brightness % 2 ^ 8))
  | configureBlink blinkCount blinkRateMs => some (configureBlink (blinkCount % 2 ^ 8) (blinkRateMs % 2 ^ 16))
  | setMorse msg => if msg = [] ∨ msg.all isspace = true ∨ 32 < msg.length then none else some (setMorse msg)
  | command => some command

-- The receiving side, which is not part of this program: what a packet stands for.
def stateOf : UInt8 → Option LEDState
  | 0 => some .OFF
  | 1 => some .FIXED_ON
  | 2 => some .BLINK
  | 3 => some .MORSE
  | 4 => some .FADE
  | _ => none

def word (low high : UInt8) : Int := low.toNat + 2 ^ 8 * high.toNat

def ofPacket : Nat → Nat → List UInt8 → Option LEDCommand
  | 0, 1, [white, red, green, blue] => some (setColor ⟨white, red, green, blue⟩)
  | 0, 2, [brightness] => some (setBrightness brightness.toNat)
  | 0, 3, [rateLow, rateHigh, blinkCount] => some (configureBlink blinkCount.toNat (word rateLow rateHigh))
  | 0, 4, [defaultState] => (stateOf defaultState).map setDefaultState
  | 1, 0, [_] => some setOff
  | 2, 0, [_] => some setOn
  | 2, 5, [white, red, green, blue, countLow, countHigh, spacingLow, spacingHigh] =>
      some (setFloatPixel ⟨white, red, green, blue⟩ (word countLow countHigh) (word spacingLow spacingHigh))
  | 3, 0, [_] => some setBlink
  | 4, 0, [_] => some setCommLoss
  | 5, 0, [_] => some setCommRestored
  | 6, 1, msg => some (setMorse msg)
  | 9, 0, [_] => some setFade
  | _, _, _ => none

-- A Morse packet after the first of its message goes on with it.
def receive (received : List LEDCommand) (write : PacketWrite) : List LEDCommand :=
  let apiClass := extract write.apiId 6 4
  let apiIndex := extract write.apiId 4 0
  match received.getLast? with
  | some (setMorse msg) =>
      if apiClass = 6 ∧ 1 < apiIndex then received.dropLast ++ [setMorse (msg ++ write.data)]
      else received ++ (ofPacket apiClass apiIndex write.data).toList
  | _ => received ++ (ofPacket apiClass apiIndex write.data).toList

def decoded (writes : List PacketWrite) : List LEDCommand := writes.foldl receive []

end LEDCommand

namespace LEDCommand

variable (controller : CKCANDevice)

theorem byte_of_to_nat (value : Int) (shift : Nat) : ((byteOf value shift).toNat : Int) = value / 2 ^ shift % 2 ^ 8 := by
  rw [byteOf, UInt8.toNat_ofNat']
  omega

theorem word_bytes (value : Int) : word (byteOf value 0) (byteOf value 8) = value % 2 ^ 16 := by
  rw [word, byte_of_to_nat, byte_of_to_nat]
  omega

theorem state_of_number (state : LEDState) : stateOf state.number = some state := by
  cases state <;> rfl

theorem api_class_number (apiClass : APIClass) : extract apiClass.number 6 0 = apiClass.number := by
  cases apiClass <;> rfl

theorem receive_new (received : List LEDCommand) (apiClass : APIClass) (apiIndex : Nat) (buf : List UInt8)
    (inRange : apiIndex < 16) (first : apiClass = .MORSE → apiIndex = 1) :
    receive received (CKLEDController.packet controller apiClass apiIndex buf).write =
      received ++ (ofPacket apiClass.number apiIndex buf).toList := by
  have classSent : extract (CKLEDController.packet controller apiClass apiIndex buf).write.apiId 6 4 = apiClass.number :=
    (CKCANDevice.get_api_id_class _ _).trans (api_class_number apiClass)
  have indexSent : extract (CKLEDController.packet controller apiClass apiIndex buf).write.apiId 4 0 = apiIndex :=
    (CKCANDevice.get_api_id_index _ _).trans (extract_of_lt apiIndex 4 inRange)
  have starts : ¬(apiClass.number = 6 ∧ 1 < apiIndex) := by
    intro continues
    have morse : apiClass = .MORSE := by
      cases apiClass with
      | MORSE => rfl
      | _ => cases continues.1
    rw [first morse] at continues
    exact absurd continues.2 (by decide)
  rw [receive, classSent, indexSent]
  split
  · rw [if_neg starts]
    rfl
  · rfl

theorem morse_packet_class (msg : List UInt8) (k : Nat) :
    extract (CKLEDController.morsePacket controller msg k).write.apiId 6 4 = 6 := by
  rw [CKCANPacket.write, CKLEDController.morsePacket, CKCANDevice.get_api_id_class, api_class_number]
  rfl

-- Each packet brings the message by its next eight bytes nearer to the end.
theorem receive_morse (received : List LEDCommand) (msg : List UInt8) (k : Nat) (inSequence : k < 4) :
    (((List.range (k + 1)).map (CKLEDController.morsePacket controller msg)).map CKCANPacket.write).foldl receive received =
      received ++ [setMorse (msg.take (8 * (k + 1)))] := by
  induction k with
  | zero =>
      have first := receive_new controller received .MORSE 1 (chunk 8 msg 0) (by decide) fun _ => rfl
      exact first
  | succ k ih =>
      have index : extract (CKLEDController.morsePacket controller msg (k + 1)).write.apiId 4 0 = k + 2 :=
        (CKLEDController.morse_packet_api controller msg (k + 1) inSequence).2
      rw [List.range_succ, List.map_append, List.map_singleton, List.map_append, List.map_singleton, List.foldl_concat, ih (by omega), receive,
        morse_packet_class, index, List.getLast?_concat, List.dropLast_concat]
      dsimp only
      rw [if_pos ⟨rfl, by omega⟩, CKCANPacket.write, CKLEDController.morsePacket, chunk, ← List.take_add]
      rfl

theorem receive_packets (received : List LEDCommand) (command : LEDCommand) :
    ((command.packets controller).map CKCANPacket.write).foldl receive received = received ++ command.onWire.toList := by
  have default : ∀ apiClass : APIClass, apiClass ≠ .MORSE →
      receive received (CKLEDController.packet controller apiClass APIIndex.DEFAULT [0]).write =
        received ++ (ofPacket apiClass.number 0 [0]).toList :=
    fun apiClass other => receive_new controller received apiClass 0 [0] (by decide) fun same => absurd same other
  cases command with
  | setOn => exact default .FIXED_ON (by decide)
  | setOff => exact default .OFF (by decide)
  | setBlink => exact default .BLINK (by decide)
  | setCommLoss => exact default .COMM_LOSS (by decide)
  | setCommRestored => exact default .COMM_RESTORED (by decide)
  | setFade => exact default .FADE (by decide)
  | setFloatPixel pixelColor pixelCount pixelRepeatSpacing =>
      refine (receive_new controller received .FIXED_ON 5 _ (by decide) nofun).trans ?_
      rw [APIClass.number, ofPacket, word_bytes, word_bytes]
      rfl
  | setColor rgbColor => exact receive_new controller received .IDLE 1 _ (by decide) nofun
  | setBrightness brightness =>
      refine (receive_new controller received .IDLE 2 _ (by decide) nofun).trans ?_
      rw [APIClass.number, ofPacket, byte_of_to_nat, onWire, pow_zero, Int.ediv_one]
  | setDefaultState defaultState =>
      refine (receive_new controller received .IDLE 4 _ (by decide) nofun).trans ?_
      rw [APIClass.number, ofPacket, state_of_number]
      rfl
  | configureBlink blinkCount blinkRateMs =>
      refine (receive_new controller received .IDLE 3 _ (by decide) nofun).trans ?_
      rw [APIClass.number, ofPacket, word_bytes, byte_of_to_nat, onWire, pow_zero, Int.ediv_one]
  | setMorse msg =>
      rw [packets, onWire]
      split
      · rename_i refused
        rw [CKLEDController.set_morse_refused controller _ msg refused]
        exact (List.append_nil _).symm
      · rename_i sent
        simp only [not_or, Bool.not_eq_true, Nat.not_lt] at sent
        obtain ⟨full, speaks, short⟩ := sent
        have some : 0 < msg.length := List.length_pos_of_ne_nil full
        obtain ⟨k, rounds⟩ := Nat.exists_eq_add_of_le' (show 1 ≤ (msg.length + 7) / 8 by omega)
        rw [CKLEDController.set_morse_queued controller _ msg speaks short fun _ => rfl, rounds,
          receive_morse controller received msg k (by omega), List.take_of_length_le (by omega)]
        rfl

theorem receive_commands (received : List LEDCommand) (commands : List LEDCommand) :
    ((commands.flatMap (packets controller)).map CKCANPacket.write).foldl receive received = received ++ commands.filterMap onWire := by
  induction commands generalizing received with
  | nil => exact (List.append_nil _).symm
  | cons command rest ih =>
      rw [List.flatMap_cons, List.map_append, List.foldl_append, receive_packets, ih, List.append_assoc, Fifo.filter_map_cons]

theorem commands_decodable (commands : List LEDCommand) :
    decoded ((commands.flatMap (packets controller)).map CKCANPacket.write) = commands.filterMap onWire :=
  receive_commands controller [] commands

-- Controllers whose ids agree in six bits are one device on the bus; other devices may come between.
theorem commands_reach_bus (turns : List CANTurn) (commands : List LEDCommand)
    (sent : (((Runs.runLog CKCANServer.step CKCANServer.initial turns).2.filterMap CANEffect.accepted).map
        CKCANPacket.write).filter (fun write => write.can = controller.getCANDev) =
      (commands.flatMap (packets controller)).map CKCANPacket.write)
    (waiting : (Runs.runLog CKCANServer.step CKCANServer.initial turns).1.point = .rateControl) :
    decoded ((((Runs.runLog CKCANServer.step CKCANServer.initial turns).2.filterMap CANEffect.written).map
        CKCANPacket.write).filter fun write => write.can = controller.getCANDev) =
      commands.filterMap onWire := by
  obtain ⟨kept, conserved⟩ := CKCANServer.run_from_initial turns
  rw [kept.drained waiting, List.append_nil] at conserved
  rw [← conserved, sent]
  exact receive_commands controller [] commands

theorem commands_reach_bus_between_others :
    decoded ((((Runs.runLog CKCANServer.step CKCANServer.initial
        [.tryLock 1 (CKLEDController.setBrightness ⟨1, 10, 8⟩ 300), .pushAndUnlock 1,
          .tryLock 2 (CKLEDController.setOn ⟨2, 10, 8⟩), .testLoop, .pushAndUnlock 2, .lockGuard, .writePacket,
          .writePacket, .endDrain]).2.filterMap CANEffect.written).map CKCANPacket.write).filter fun write =>
        write.can = CKCANDevice.getCANDev ⟨1, 10, 8⟩) = [setBrightness 44] :=
  commands_reach_bus ⟨1, 10, 8⟩ _ [setBrightness 300] (by decide) (by decide)

end LEDCommand

end RioPassthru
