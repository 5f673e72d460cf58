import RioPassthru.CAN.CKCANDevice
import RioPassthru.Lib.Fifo

set_option autoImplicit false

namespace RioPassthru

open Runs

structure CKCANPacket where
  canDev : CKCANDevice
  apiID : Nat
  data : List UInt8
deriving DecidableEq, Repr

structure PacketWrite where
  can : FrcCAN
  data : List UInt8
  apiId : Nat
deriving DecidableEq, Repr

def CKCANPacket.write (canPacket : CKCANPacket) : PacketWrite :=
  ⟨canPacket.canDev.getCANDev, canPacket.data, canPacket.apiID⟩

inductive MutexOwner where
  | server
  | sender (thread : Nat) (canPacket : CKCANPacket)
deriving DecidableEq, Repr

-- Where runCANSendThread is: at the test of its loop, before the lock_guard, at the iterator
-- it in the list, in doRateControl, or behind the loop.
inductive ServerPoint where
  | loopTest
  | locking
  | draining (it : Nat)
  | rateControl
  | stopped
deriving DecidableEq, Repr

structure CKCANServer where
  mPacketList : List CKCANPacket
  mPacketMutex : Option MutexOwner
  mThreadActive : Bool
  point : ServerPoint
deriving DecidableEq, Repr

-- One turn of one thread; what a thread does to the list falls between its lock and its unlock.
inductive CANTurn where
  | tryLock (thread : Nat) (canPacket : CKCANPacket)
  | pushAndUnlock (thread : Nat)
  | testLoop
  | lockGuard
  | writePacket
  | endDrain
  | endScope
  | deactivate
deriving DecidableEq, Repr

inductive CANEffect where
  | quiet
  | returned (canPacket : CKCANPacket) (lockAcquired : Bool)
  | wrote (canPacket : CKCANPacket)
deriving DecidableEq, Repr

namespace CANEffect

def accepted : CANEffect → Option CKCANPacket
  | returned canPacket true => some canPacket
  | _ => none

def written : CANEffect → Option CKCANPacket
  | wrote canPacket => some canPacket
  | _ => none

end CANEffect

namespace CKCANServer

def initial : CKCANServer := ⟨[], none, true, .loopTest⟩

variable (server : CKCANServer)

-- A turn that is not the thread's next one, or that waits for the mutex, changes nothing.
-- front is read before erase moves the rest of the list.
def step : CANTurn → CKCANServer × CANEffect
  | .tryLock thread canPacket =>
      if server.mPacketMutex = none then ({ server with mPacketMutex := some (.sender thread canPacket) }, .quiet)
      else (server, .returned canPacket false)
  | .pushAndUnlock thread =>
      match server.mPacketMutex with
      | some (.sender owner canPacket) =>
          if owner = thread then
            ({ server with mPacketList := server.mPacketList ++ [canPacket], mPacketMutex := none }, .returned canPacket true)
          else (server, .quiet)
      | _ => (server, .quiet)
  | .testLoop =>
      if server.point = .loopTest then
        ({ server with point := if server.mThreadActive then .locking else .stopped }, .quiet)
      else (server, .quiet)
  | .lockGuard =>
      if server.point = .locking ∧ server.mPacketMutex = none then
        ({ server with mPacketMutex := some .server, point := .draining 0 }, .quiet)
      else (server, .quiet)
  | .writePacket =>
      match server.point, server.mPacketList with
      | .draining it, front :: _ =>
          if it ≠ server.mPacketList.length then
            ({ server with mPacketList := server.mPacketList.eraseIdx it }, .wrote front)
          else (server, .quiet)
      | _, _ => (server, .quiet)
  | .endDrain =>
      if server.point = .draining server.mPacketList.length then ({ server with point := .rateControl }, .quiet)
      else (server, .quiet)
  | .endScope =>
      if server.point = .rateControl then ({ server with mPacketMutex := none, point := .loopTest }, .quiet)
      else (server, .quiet)
  | .deactivate => ({ server with mThreadActive := false }, .quiet)

def sendPacket (thread : Nat) (canPacket : CKCANPacket) : CKCANServer × Bool :=
  match server.step (.tryLock thread canPacket) with
  | (refused, .returned _ false) => (refused, false)
  | (locked, _) => ((locked.step (.pushAndUnlock thread)).1, true)

def Owned : Prop := server.point = .rateControl ∨ ∃ it, server.point = .draining it

structure Invariant : Prop where
  guarded : server.Owned ↔ server.mPacketMutex = some .server
  atFront : ∀ it, server.point = .draining it → it = 0
  drained : server.point = .rateControl → server.mPacketList = []

abbrev Conserves (outcome : CKCANServer × CANEffect) : Prop :=
  Fifo.Conserves mPacketList CANEffect.accepted CANEffect.written server outcome

theorem initial_invariant : initial.Invariant := by
  refine ⟨?_, nofun, fun _ => rfl⟩
  simp [Owned, initial]

variable {server}

theorem quiet_conserves (next : CKCANServer) (same : next.mPacketList = server.mPacketList) : server.Conserves (next, .quiet) := by
  rw [Conserves, Fifo.Conserves, same]
  exact List.append_nil _

theorem try_lock_step (thread : Nat) (canPacket : CKCANPacket) (kept : server.Invariant) :
    (server.step (.tryLock thread canPacket)).1.Invariant ∧ server.Conserves (server.step (.tryLock thread canPacket)) := by
  rw [step]
  split
  · rename_i free
    have outside : ¬server.Owned := fun owned => nomatch free.symm.trans (kept.guarded.mp owned)
    exact ⟨⟨iff_of_false outside nofun, kept.atFront, kept.drained⟩, quiet_conserves _ rfl⟩
  · exact ⟨kept, List.append_nil _⟩

theorem push_and_unlock_step (thread : Nat) (kept : server.Invariant) :
    (server.step (.pushAndUnlock thread)).1.Invariant ∧ server.Conserves (server.step (.pushAndUnlock thread)) := by
  rw [step]
  split
  · rename_i owner canPacket held
    have outside : ¬server.Owned := fun owned => nomatch held.symm.trans (kept.guarded.mp owned)
    split
    · refine ⟨⟨iff_of_false outside nofun, kept.atFront, fun waiting => absurd (Or.inl waiting) outside⟩, rfl⟩
    · exact ⟨kept, quiet_conserves _ rfl⟩
  · exact ⟨kept, quiet_conserves _ rfl⟩

theorem write_packet_step (kept : server.Invariant) :
    (server.step .writePacket).1.Invariant ∧ server.Conserves (server.step .writePacket) := by
  rw [step]
  split
  · rename_i it front rest draining queued
    split
    · obtain rfl := kept.atFront it draining
      refine ⟨⟨kept.guarded, kept.atFront, fun waiting => nomatch draining.symm.trans waiting⟩, ?_⟩
      rw [Conserves, Fifo.Conserves, queued]
      exact List.append_nil _
    · exact ⟨kept, quiet_conserves _ rfl⟩
  · exact ⟨kept, quiet_conserves _ rfl⟩

theorem step_conserves (turn : CANTurn) (kept : server.Invariant) :
    (server.step turn).1.Invariant ∧ server.Conserves (server.step turn) := by
  cases turn with
  | tryLock thread canPacket => exact try_lock_step thread canPacket kept
  | pushAndUnlock thread => exact push_and_unlock_step thread kept
  | writePacket => exact write_packet_step kept
  | testLoop =>
      rw [step]
      split
      · rename_i testing
        have outside : ¬server.Owned := by simp [Owned, testing]
        have free : server.mPacketMutex ≠ some .server := fun held => outside (kept.guarded.mpr held)
        refine ⟨⟨iff_of_false ?_ free, ?_, ?_⟩, quiet_conserves _ rfl⟩ <;> cases server.mThreadActive <;> simp [Owned]
      · exact ⟨kept, quiet_conserves _ rfl⟩
  | lockGuard =>
      rw [step]
      split
      · refine ⟨⟨iff_of_true (Or.inr ⟨0, rfl⟩) rfl, ?_, nofun⟩, quiet_conserves _ rfl⟩
        exact fun it same => (ServerPoint.draining.inj same).symm
      · exact ⟨kept, quiet_conserves _ rfl⟩
  | endDrain =>
      rw [step]
      split
      · rename_i finished
        have empty := List.length_eq_zero_iff.mp (kept.atFront _ finished)
        have held := kept.guarded.mp (Or.inr ⟨_, finished⟩)
        exact ⟨⟨iff_of_true (Or.inl rfl) held, nofun, fun _ => empty⟩, quiet_conserves _ rfl⟩
      · exact ⟨kept, quiet_conserves _ rfl⟩
  | endScope =>
      rw [step]
      split
      · exact ⟨⟨iff_of_false (by simp [Owned]) nofun, nofun, nofun⟩, quiet_conserves _ rfl⟩
      · exact ⟨kept, quiet_conserves _ rfl⟩
  | deactivate => exact ⟨⟨kept.guarded, kept.atFront, kept.drained⟩, quiet_conserves _ rfl⟩

theorem run_from_initial (turns : List CANTurn) :
    (runLog step initial turns).1.Invariant ∧
      (runLog step initial turns).2.filterMap CANEffect.accepted =
        (runLog step initial turns).2.filterMap CANEffect.written ++ (runLog step initial turns).1.mPacketList :=
  Fifo.run_from_empty step mPacketList CANEffect.accepted CANEffect.written Invariant
    (fun _ turn kept => step_conserves turn kept) turns initial initial_invariant rfl

theorem refused_unchanged (turn : CANTurn) (canPacket : CKCANPacket) (refused : (server.step turn).2 = .returned canPacket false) :
    (server.step turn).1 = server := by
  cases turn with
  | tryLock thread other =>
      rw [step] at refused ⊢
      split at refused
      · cases refused
      · rename_i busy
        rw [if_neg busy]
  | pushAndUnlock | writePacket =>
      rw [step.eq_def] at refused
      dsimp only at refused
      split at refused
      · split at refused <;> cases refused
      · cases refused
  | testLoop | lockGuard | endDrain | endScope =>
      rw [step] at refused
      split at refused <;> cases refused
  | deactivate => cases refused

theorem first_in_first_out (turns : List CANTurn) :
    let run := runLog step initial turns
    let accepted := run.2.filterMap CANEffect.accepted
    let written := run.2.filterMap CANEffect.written
    written <+: accepted ∧ (run.1.point = .rateControl → run.1.mPacketList = [] ∧ written = accepted) ∧
      ∀ turn canPacket, (run.1.step turn).2 = .returned canPacket false → (run.1.step turn).1.mPacketList = run.1.mPacketList := by
  intro run accepted written
  obtain ⟨kept, conserved⟩ := run_from_initial turns
  have history : accepted = written ++ run.1.mPacketList := conserved
  refine ⟨⟨run.1.mPacketList, history.symm⟩, ?_, ?_⟩
  · intro waiting
    have empty := kept.drained waiting
    refine ⟨empty, ?_⟩
    rw [history, empty, List.append_nil]
  · intro turn canPacket refused
    rw [refused_unchanged turn canPacket refused]

theorem refused_while_waiting (turns : List CANTurn) :
    let server := (runLog step initial turns).1
    server.point = .rateControl →
      (∀ thread canPacket, server.mPacketMutex ≠ some (.sender thread canPacket)) ∧
        ∀ thread canPacket, server.sendPacket thread canPacket = (server, false) := by
  intro server waiting
  have kept : server.Invariant := (run_from_initial turns).1
  have held := kept.guarded.mp (Or.inl waiting)
  refine ⟨fun thread canPacket other => (nomatch held.symm.trans other), fun thread canPacket => ?_⟩
  have busy : server.mPacketMutex ≠ none := fun free => nomatch held.symm.trans free
  rw [sendPacket, step, if_neg busy]

theorem refused_while_first_waiting :
    (runLog step initial [.testLoop, .lockGuard, .endDrain]).1.sendPacket 1 ⟨⟨1, 10, 8⟩, 96, [0]⟩ =
      ((runLog step initial [.testLoop, .lockGuard, .endDrain]).1, false) :=
  (refused_while_waiting [.testLoop, .lockGuard, .endDrain] rfl).2 1 ⟨⟨1, 10, 8⟩, 96, [0]⟩

theorem idle_server_refuses : ¬ ∀ (turns : List CANTurn) (thread : Nat) (canPacket : CKCANPacket),
    let server := (runLog step initial turns).1
    server.point = .rateControl → (∀ thread canPacket, server.mPacketMutex ≠ some (.sender thread canPacket)) →
      (server.sendPacket thread canPacket).2 = true ∧ canPacket ∈ (server.sendPacket thread canPacket).1.mPacketList := by
  intro always
  have sent := (always [.testLoop, .lockGuard, .endDrain] 1 ⟨⟨1, 10, 8⟩, 96, [0]⟩ rfl fun _ _ => nofun).1
  exact absurd sent (by decide)

end CKCANServer

end RioPassthru
