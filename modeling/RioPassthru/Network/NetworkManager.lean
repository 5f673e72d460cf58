import Mathlib

set_option autoImplicit false

namespace RioPassthru

abbrev Bytes := List UInt8

structure ExternalControlManager where
  mLastConnectionTime : Nat
deriving DecidableEq, Repr

namespace ExternalControlManager

-- 50 ticks of ProcessHeartbeatTask; the source comment calls this a 500ms timeout.
def externalControlMsgReceived (_manager : ExternalControlManager) : ExternalControlManager :=
  { mLastConnectionTime := 50 }

def isExternalControlConnected (manager : ExternalControlManager) : Bool :=
  decide (0 < manager.mLastConnectionTime)

def processHeartbeat (manager : ExternalControlManager) : ExternalControlManager :=
  if 0 < manager.mLastConnectionTime then { mLastConnectionTime := manager.mLastConnectionTime - 1 }
  else manager

end ExternalControlManager

structure Datagram where
  group : String
  payload : Bytes
deriving DecidableEq, Repr

-- What a dontwait recv meets next: a datagram, or an error other than EAGAIN,
-- which zmq.hpp throws. An empty socket answers EAGAIN, an empty result.
inductive Arrival where
  | datagram (value : Datagram)
  | error (what : String)
deriving DecidableEq, Repr

structure NetworkManager where
  zmqRecvSock : List Arrival
  recvMsgMap : String → Option Bytes

def EAGAIN : Nat := 11

structure PumpRun where
  network : NetworkManager
  external : ExternalControlManager
  notified : Nat
  threw : Bool

namespace NetworkManager

def placeFailoverMessage (network : NetworkManager) (group : String) (bytes : Bytes) : NetworkManager :=
  { network with recvMsgMap := Function.update network.recvMsgMap group (some bytes) }

def getMessage (network : NetworkManager) (group : String) : NetworkManager × Option Bytes :=
  match network.recvMsgMap group with
  | some bytes => ({ network with recvMsgMap := Function.update network.recvMsgMap group none }, some bytes)
  | none => (network, none)

-- recvMsgMap[msg.group()] under mNetworkLock, in the body of the loop.
def storeReceived (network : NetworkManager) (msg : Datagram) : NetworkManager :=
  { network with recvMsgMap := Function.update network.recvMsgMap msg.group (some msg.payload) }

-- The while loop with its recv at the end; the list is what the next recv finds.
-- The loop condition compares the byte count of a received datagram with EAGAIN.
def receiveLoop (network : NetworkManager) (external : ExternalControlManager) (notified : Nat) :
    List Arrival → PumpRun
  | [] => ⟨{ network with zmqRecvSock := [] }, external, notified, false⟩
  | .error _ :: rest => ⟨{ network with zmqRecvSock := rest }, external, notified, true⟩
  | .datagram msg :: rest =>
      if msg.payload.length ≠ EAGAIN then
        receiveLoop (network.storeReceived msg) external.externalControlMsgReceived (notified + 1) rest
      else ⟨{ network with zmqRecvSock := rest }, external, notified, false⟩

def readSuccessful : List Arrival → Bool
  | .datagram msg :: _ => decide (msg.payload.length ≠ EAGAIN)
  | _ => false

def receiveMessagePump (network : NetworkManager) (external : ExternalControlManager) : PumpRun × Bool :=
  let run := receiveLoop network external 0 network.zmqRecvSock
  (run, readSuccessful network.zmqRecvSock && !run.threw)

end NetworkManager

open NetworkManager

def lastOfGroup (group : String) (queue : List Datagram) : Option Bytes :=
  ((queue.filter (fun msg => msg.group = group)).getLast?).map Datagram.payload

def storedAfter (before : String → Option Bytes) (queue : List Datagram) (group : String) : Option Bytes :=
  (lastOfGroup group queue).orElse fun _ => before group

theorem last_of_group_cons (group : String) (msg : Datagram) (rest : List Datagram) :
    lastOfGroup group (msg :: rest) =
      (lastOfGroup group rest).orElse (fun _ => if msg.group = group then some msg.payload else none) := by
  by_cases same : msg.group = group
  · simp only [lastOfGroup, List.filter_cons, same, decide_true, if_true, List.getLast?_cons]
    cases (rest.filter (fun msg => decide (msg.group = group))).getLast? <;> rfl
  · simp only [lastOfGroup, List.filter_cons, same, decide_false, Bool.false_eq_true, if_false]
    cases ((rest.filter (fun msg => decide (msg.group = group))).getLast?).map Datagram.payload <;> rfl

theorem stored_after_cons (before : String → Option Bytes) (msg : Datagram) (rest : List Datagram) :
    storedAfter before (msg :: rest) =
      storedAfter (Function.update before msg.group (some msg.payload)) rest := by
  funext group
  simp only [storedAfter, last_of_group_cons]
  cases lastOfGroup group rest with
  | some bytes => rfl
  | none =>
      by_cases same : msg.group = group
      · subst same
        simp
      · simp [same, Function.update_of_ne (Ne.symm same)]

theorem receive_loop_complete (queue : List Datagram) (accepted : ∀ msg ∈ queue, msg.payload.length ≠ EAGAIN)
    (network : NetworkManager) (external : ExternalControlManager) (notified : Nat) :
    ∃ later, receiveLoop network external notified (queue.map .datagram) =
      ⟨⟨[], storedAfter network.recvMsgMap queue⟩, later, notified + queue.length, false⟩ := by
  induction queue generalizing network external notified with
  | nil => exact ⟨external, rfl⟩
  | cons msg rest ih =>
      obtain ⟨later, run⟩ := ih (fun other member => accepted other (List.mem_cons_of_mem _ member))
        (network.storeReceived msg) external.externalControlMsgReceived (notified + 1)
      refine ⟨later, ?_⟩
      have head : msg.payload.length ≠ EAGAIN := accepted msg List.mem_cons_self
      rw [List.map_cons, receiveLoop, if_pos head, run, stored_after_cons, List.length_cons, storeReceived]
      simp only [Nat.add_assoc, Nat.add_comm 1]

theorem receive_loop_external (arrivals : List Arrival) (network : NetworkManager)
    (external : ExternalControlManager) (notified : Nat) :
    (readSuccessful arrivals = true ∧ notified < (receiveLoop network external notified arrivals).notified ∧
        (receiveLoop network external notified arrivals).external = ⟨50⟩) ∨
      (readSuccessful arrivals = false ∧ (receiveLoop network external notified arrivals).notified = notified ∧
        (receiveLoop network external notified arrivals).external = external) := by
  induction arrivals generalizing network external notified with
  | nil => exact Or.inr ⟨rfl, rfl, rfl⟩
  | cons arrival rest ih =>
      cases arrival with
      | error what => exact Or.inr ⟨rfl, rfl, rfl⟩
      | datagram msg =>
          by_cases accepted : msg.payload.length ≠ EAGAIN
          · refine Or.inl ⟨by simpa [readSuccessful] using accepted, ?_⟩
            rw [receiveLoop, if_pos accepted]
            rcases ih (network.storeReceived msg) external.externalControlMsgReceived
              (notified + 1) with ⟨_, more, reset⟩ | ⟨_, same, kept⟩
            · exact ⟨by omega, reset⟩
            · exact ⟨by omega, kept⟩
          · rw [receiveLoop, if_neg accepted]
            exact Or.inr ⟨by simpa [readSuccessful] using accepted, rfl, rfl⟩

-- A datagram of EAGAIN bytes ends the loop, so the count of calls stays behind for good.
theorem receive_loop_stops_short (queue : List Datagram) (refused : Datagram) (member : refused ∈ queue)
    (size : refused.payload.length = EAGAIN) (network : NetworkManager)
    (external : ExternalControlManager) (notified : Nat) :
    (receiveLoop network external notified (queue.map .datagram)).notified < notified + queue.length := by
  induction queue generalizing network external notified with
  | nil => cases member
  | cons msg rest ih =>
      by_cases accepted : msg.payload.length ≠ EAGAIN
      · have later : refused ∈ rest := by
          rcases List.mem_cons.mp member with same | later
          · exact absurd (same ▸ size) accepted
          · exact later
        have bound := ih later (network.storeReceived msg) external.externalControlMsgReceived (notified + 1)
        rw [List.map_cons, receiveLoop, if_pos accepted, List.length_cons]
        omega
      · rw [List.map_cons, receiveLoop, if_neg accepted, List.length_cons]
        exact Nat.lt_add_of_pos_right (Nat.succ_pos _)

def waiting (network : NetworkManager) (queue : List Datagram) : NetworkManager :=
  { network with zmqRecvSock := queue.map .datagram }

structure PumpLossless (network : NetworkManager) (external : ExternalControlManager)
    (queue : List Datagram) : Prop where
  drained : (receiveMessagePump (waiting network queue) external).1.network.zmqRecvSock = []
  stored : ∀ group, (receiveMessagePump (waiting network queue) external).1.network.recvMsgMap group =
    storedAfter network.recvMsgMap queue group
  notified : (receiveMessagePump (waiting network queue) external).1.notified = queue.length
  result : (receiveMessagePump (waiting network queue) external).2 = true ↔ queue ≠ []

theorem read_successful_iff (queue : List Datagram) (accepted : ∀ msg ∈ queue, msg.payload.length ≠ EAGAIN) :
    readSuccessful (queue.map .datagram) = true ↔ queue ≠ [] := by
  cases queue with
  | nil => simp [readSuccessful]
  | cons msg rest => simpa [readSuccessful] using accepted msg List.mem_cons_self

theorem receive_pump_lossless_iff (network : NetworkManager) (external : ExternalControlManager)
    (queue : List Datagram) :
    PumpLossless network external queue ↔ ∀ msg ∈ queue, msg.payload.length ≠ EAGAIN := by
  have pump : receiveMessagePump (waiting network queue) external =
      (receiveLoop (waiting network queue) external 0 (queue.map .datagram),
        readSuccessful (queue.map .datagram) &&
          !(receiveLoop (waiting network queue) external 0 (queue.map .datagram)).threw) := rfl
  constructor
  · intro lossless msg member size
    have short := receive_loop_stops_short queue msg member size (waiting network queue) external 0
    have counted := lossless.notified
    rw [pump] at counted
    exact absurd short (Nat.not_lt.mpr (by rw [Nat.zero_add, ← counted]))
  · intro accepted
    obtain ⟨later, run⟩ := receive_loop_complete queue accepted (waiting network queue) external 0
    have pumped : receiveMessagePump (waiting network queue) external =
        (⟨⟨[], storedAfter network.recvMsgMap queue⟩, later, queue.length, false⟩,
          readSuccessful (queue.map .datagram)) := by
      rw [pump, run, Nat.zero_add, Bool.not_false, Bool.and_true]
      rfl
    refine ⟨by rw [pumped], fun group => by rw [pumped], by rw [pumped], ?_⟩
    rw [pumped]
    exact read_successful_iff queue accepted

theorem receive_pump_loses_eleven_bytes :
    ¬ ∀ (network : NetworkManager) (external : ExternalControlManager) (queue : List Datagram),
      PumpLossless network external queue := by
  intro always
  have lossless := always ⟨[], fun _ => none⟩ ⟨0⟩
    [⟨"ledcontrol", List.replicate 11 1⟩, ⟨"motorcontrol", [8]⟩, ⟨"motorcontrol", [9]⟩]
  have drained := lossless.drained
  simp [receiveMessagePump, waiting, receiveLoop, EAGAIN] at drained

end RioPassthru
