import RioPassthru.CAN.CKCANServer
import RioPassthru.Lib.Chunks
import RioPassthru.Lib.Loops

set_option autoImplicit false

namespace RioPassthru

open BitFields Chunks Loops

inductive APIClass where
  | IDLE
  | OFF
  | FIXED_ON
  | BLINK
  | COMM_LOSS
  | COMM_RESTORED
  | MORSE
  | DRIVER_SIGNAL
  | ENDGAME
  | FADE
deriving DecidableEq, Repr

def APIClass.number : APIClass → Nat
  | IDLE => 0
  | OFF => 1
  | FIXED_ON => 2
  | BLINK => 3
  | COMM_LOSS => 4
  | COMM_RESTORED => 5
  | MORSE => 6
  | DRIVER_SIGNAL => 7
  | ENDGAME => 8
  | FADE => 9

-- std::isspace in the C locale.
def isspace (c : UInt8) : Bool := c == 0x20 || (0x09 ≤ c && c ≤ 0x0D)

-- What setMorse reports, and its calls of sendPacket with what each of them returns.
structure MorseCalls where
  report : Option String
  calls : List (CKCANPacket × Bool)

def MorseCalls.queued (morse : MorseCalls) : List CKCANPacket := (morse.calls.filter Prod.snd).map Prod.fst

structure MorseLoop where
  msg : List UInt8
  msgCounter : Nat
  calls : List (CKCANPacket × Bool)

namespace CKLEDController

def MAX_MORSE_STRING_SIZE : Nat := 32

-- push_back of front and erase of the first byte, msgLength times.
def moveFront : Nat → List UInt8 → List UInt8 → List UInt8 × List UInt8
  | 0, buf, msg => (buf, msg)
  | _ + 1, buf, [] => (buf, [])
  | msgLength + 1, buf, front :: msg => moveFront msgLength (buf ++ [front]) msg

def Unsent (loop : MorseLoop) : Prop := 0 < loop.msg.length ∧ loop.msgCounter < 4

instance : DecidablePred Unsent := fun _ => inferInstanceAs (Decidable (_ ∧ _))

variable (controller : CKCANDevice) (returned : Nat → Bool)

-- returned is what the packet with that index gets from sendPacket.
def sendNext (loop : MorseLoop) : MorseLoop :=
  let msgLength := if loop.msg.length ≥ 8 then 8 else loop.msg.length
  let moved := moveFront msgLength [] loop.msg
  let msgCounter := loop.msgCounter + 1
  let canPacket : CKCANPacket := ⟨controller, CKCANDevice.getAPIID APIClass.MORSE.number msgCounter, moved.1⟩
  ⟨moved.2, msgCounter, loop.calls ++ [(canPacket, returned msgCounter)]⟩

theorem send_next_falls (loop : MorseLoop) (unsent : Unsent loop) :
    4 - (sendNext controller returned loop).msgCounter < 4 - loop.msgCounter := by
  rw [Unsent] at unsent
  simp only [sendNext]
  omega

def setMorse (msg : List UInt8) : MorseCalls :=
  if msg = [] ∨ msg.all isspace = true then ⟨some "Morse code message is empty or whitespace!", []⟩
  else if msg.length > MAX_MORSE_STRING_SIZE then ⟨some "Morse code message size is too long!", []⟩
  else
    ⟨none, (whileLoop Unsent (sendNext controller returned) (fun loop => 4 - loop.msgCounter)
      (send_next_falls controller returned) ⟨msg, 0, []⟩).calls⟩

theorem move_front_eq (msgLength : Nat) (buf msg : List UInt8) :
    moveFront msgLength buf msg = (buf ++ msg.take msgLength, msg.drop msgLength) := by
  induction msgLength generalizing buf msg with
  | zero => rw [moveFront, List.take_zero, List.append_nil, List.drop_zero]
  | succ msgLength ih =>
      cases msg with
      | nil => rw [moveFront, List.take_nil, List.append_nil, List.drop_nil]
      | cons front msg => rw [moveFront, ih, List.append_assoc, List.take_succ_cons, List.drop_succ_cons, List.singleton_append]

def morsePacket (msg : List UInt8) (k : Nat) : CKCANPacket :=
  ⟨controller, CKCANDevice.getAPIID APIClass.MORSE.number (k + 1), chunk 8 msg k⟩

def morseCall (msg : List UInt8) (k : Nat) : CKCANPacket × Bool := (morsePacket controller msg k, returned (k + 1))

def Sent (msg : List UInt8) (loop : MorseLoop) : Prop :=
  loop.msg = msg.drop (8 * loop.msgCounter) ∧ loop.calls = (List.range loop.msgCounter).map (morseCall controller returned msg) ∧
    8 * loop.msgCounter < msg.length + 8

theorem move_front_of_eight (msg : List UInt8) :
    moveFront (if msg.length ≥ 8 then 8 else msg.length) [] msg = (msg.take 8, msg.drop 8) := by
  rw [move_front_eq, List.nil_append]
  split
  · rfl
  · rename_i short
    rw [List.take_length, List.drop_length, List.take_of_length_le (by omega), List.drop_eq_nil_of_le (by omega)]

theorem send_next_sent (msg : List UInt8) (loop : MorseLoop) (unsent : Unsent loop) (sent : Sent controller returned msg loop) :
    Sent controller returned msg (sendNext controller returned loop) := by
  obtain ⟨left, calls, -⟩ := sent
  have more := unsent.1
  rw [left, List.length_drop] at more
  rw [sendNext, move_front_of_eight]
  refine ⟨?_, ?_, ?_⟩
  · rw [left, List.drop_drop, Nat.mul_succ]
  · rw [calls, List.range_succ, List.map_append, left]
    rfl
  · rw [Nat.mul_succ]
    omega

-- The loop is left when all is sent: four rounds send as many bytes as a message may have.
theorem set_morse_calls (msg : List UInt8) (speaks : msg.all isspace = false) (short : msg.length ≤ 32) :
    (setMorse controller returned msg).calls = (List.range ((msg.length + 7) / 8)).map (morseCall controller returned msg) := by
  have full : msg ≠ [] := by
    intro empty
    rw [empty] at speaks
    cases speaks
  have ends := while_loop_ends Unsent (sendNext controller returned) (fun loop => 4 - loop.msgCounter)
    (send_next_falls controller returned) ⟨msg, 0, []⟩
  obtain ⟨left, calls, needed⟩ := ends.invariant (Sent controller returned msg) (send_next_sent controller returned msg)
    ⟨rfl, rfl, Nat.lt_add_left _ (Nat.zero_lt_succ 7)⟩
  have out := ends.exit
  rw [setMorse, if_neg (by simp [full, speaks]), if_neg (by rw [MAX_MORSE_STRING_SIZE]; omega)]
  dsimp only
  rw [Unsent, left, List.length_drop] at out
  rw [calls]
  congr 2
  omega

theorem set_morse_queued (msg : List UInt8) (speaks : msg.all isspace = false) (short : msg.length ≤ 32)
    (accepted : ∀ call, returned call = true) :
    (setMorse controller returned msg).queued = (List.range ((msg.length + 7) / 8)).map (morsePacket controller msg) := by
  rw [MorseCalls.queued, set_morse_calls controller returned msg speaks short, List.filter_eq_self.mpr, List.map_map]
  · rfl
  · intro call sent
    obtain ⟨k, -, rfl⟩ := List.mem_map.mp sent
    exact accepted (k + 1)

theorem set_morse_refused (msg : List UInt8) (refused : msg = [] ∨ msg.all isspace = true ∨ 32 < msg.length) :
    (setMorse controller returned msg).queued = [] := by
  rw [setMorse]
  split
  · rfl
  · rename_i speaks
    obtain empty | silent | long := refused
    · exact absurd (Or.inl empty) speaks
    · exact absurd (Or.inr silent) speaks
    · rw [if_pos (show msg.length > MAX_MORSE_STRING_SIZE from long)]
      rfl

theorem morse_packet_api (msg : List UInt8) (k : Nat) (inSequence : k < 4) :
    extract (morsePacket controller msg k).apiID 6 4 = APIClass.MORSE.number ∧
      extract (morsePacket controller msg k).apiID 4 0 = k + 1 := by
  rw [morsePacket, CKCANDevice.get_api_id_class, CKCANDevice.get_api_id_index]
  exact ⟨rfl, extract_of_lt (k + 1) 4 (by omega)⟩

theorem morse_survives (msg : List UInt8) (accepted : ∀ call, returned call = true) :
    let packets := (setMorse controller returned msg).queued
    (1 ≤ msg.length → msg.length ≤ 32 → msg.all isspace = false →
      packets.length = (msg.length + 7) / 8 ∧ packets.flatMap CKCANPacket.data = msg ∧
        (∀ packet ∈ packets, 1 ≤ packet.data.length ∧ packet.data.length ≤ 8) ∧
        (∀ packet ∈ packets.dropLast, packet.data.length = 8) ∧
        ∀ k packet, packets[k]? = some packet →
          packet.canDev = controller ∧ extract packet.apiID 6 4 = APIClass.MORSE.number ∧ extract packet.apiID 4 0 = k + 1) ∧
      (msg = [] ∨ msg.all isspace = true ∨ 32 < msg.length → packets = []) := by
  intro packets
  refine ⟨?_, set_morse_refused controller returned msg⟩
  intro _ short speaks
  have queued : packets = (List.range ((msg.length + 7) / 8)).map (morsePacket controller msg) :=
    set_morse_queued controller returned msg speaks short accepted
  have size : ∀ k, (morsePacket controller msg k).data.length = min 8 (msg.length - 8 * k) := length_chunk 8 msg
  rw [queued]
  refine ⟨?_, ?_, ?_, ?_, ?_⟩
  · rw [List.length_map, List.length_range]
  · rw [List.flatMap_map]
    refine (chunks_flatten 8 msg _).trans (List.take_of_length_le ?_)
    omega
  · intro packet sent
    obtain ⟨k, inRange, rfl⟩ := List.mem_map.mp sent
    rw [List.mem_range] at inRange
    rw [size]
    omega
  · intro packet sent
    obtain ⟨rounds, count⟩ := Nat.exists_eq_add_of_le' (show 1 ≤ (msg.length + 7) / 8 by omega)
    rw [count, List.range_succ, List.map_append, List.map_singleton, List.dropLast_concat] at sent
    obtain ⟨k, inRange, rfl⟩ := List.mem_map.mp sent
    rw [List.mem_range] at inRange
    rw [size]
    omega
  · intro k packet sent
    rw [List.getElem?_map, Option.map_eq_some_iff] at sent
    obtain ⟨index, inRange, rfl⟩ := sent
    obtain ⟨inside, same⟩ := List.getElem?_eq_some_iff.mp inRange
    rw [List.length_range] at inside
    rw [List.getElem_range] at same
    rw [← same]
    exact ⟨rfl, morse_packet_api controller msg k (by omega)⟩

theorem morse_survives_nine_dots :
    let packets := (setMorse ⟨1, 10, 8⟩ (fun _ => true) (List.replicate 9 0x2E)).queued
    packets.length = 2 ∧ packets.flatMap CKCANPacket.data = List.replicate 9 0x2E := by
  obtain ⟨count, whole, -⟩ := (morse_survives ⟨1, 10, 8⟩ (fun _ => true) (List.replicate 9 0x2E) fun _ => rfl).1
    (by decide) (by decide) (by decide)
  exact ⟨count, whole⟩

end CKLEDController

end RioPassthru
