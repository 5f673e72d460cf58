import RioPassthru.Lib.Mailbox
import RioPassthru.Network.NetworkManager

set_option autoImplicit false

namespace RioPassthru

open NetworkManager

-- What the threads do under mNetworkLock: the assignment of receiveMessagePump,
-- placeFailoverMessage, and getMessage with the caller's buffer.
inductive StoreOp where
  | pumpStore (msg : Datagram)
  | placeFailoverMessage (group : String) (bytes : Bytes)
  | getMessage (group : String) (bytes : Bytes)

inductive StoreEvent where
  | stored (group : String) (bytes : Bytes)
  | got (group : String) (buffer : Bytes) (result : Bool) (bytes : Bytes)

namespace NetworkManager

def getMessageInto (network : NetworkManager) (group : String) (buffer : Bytes) : NetworkManager × Bool × Bytes :=
  match network.getMessage group with
  | (next, some bytes) => (next, true, bytes)
  | (next, none) => (next, false, buffer)

def storeStep (network : NetworkManager) : StoreOp → NetworkManager × StoreEvent
  | .pumpStore msg => (network.storeReceived msg, .stored msg.group msg.payload)
  | .placeFailoverMessage group bytes => (network.placeFailoverMessage group bytes, .stored group bytes)
  | .getMessage group buffer =>
      let answer := network.getMessageInto group buffer
      (answer.1, .got group buffer answer.2.1 answer.2.2)

end NetworkManager

def StoreOp.group : StoreOp → String
  | .pumpStore msg => msg.group
  | .placeFailoverMessage group _ => group
  | .getMessage group _ => group

def StoreEvent.group : StoreEvent → String
  | .stored group _ => group
  | .got group _ _ _ => group

def storeLog (network : NetworkManager) (ops : List StoreOp) : List StoreEvent := (Runs.runLog storeStep network ops).2

def StoreEvent.Leaves (group : String) : StoreEvent → Prop
  | .stored other _ => other ≠ group
  | .got other _ result _ => result = true → other ≠ group

-- The group was stored to since its last successful getMessage, with these bytes most recently.
def Undelivered (history : List StoreEvent) (group : String) (bytes : Bytes) : Prop :=
  ∃ before after, history = before ++ .stored group bytes :: after ∧ ∀ event ∈ after, event.Leaves group

structure LatestValueMailbox (network : NetworkManager) (ops : List StoreOp) : Prop where
  delivers : ∀ before after group buffer result bytes,
    storeLog network ops = before ++ .got group buffer result bytes :: after →
      (∀ latest, result = true ∧ bytes = latest ↔ Undelivered before group latest) ∧ (result = false → bytes = buffer)
  deliversOnce : ∀ first second third group buffer1 buffer2 early late,
    storeLog network ops = first ++ .got group buffer1 true early :: second ++ .got group buffer2 true late :: third →
      Undelivered second group late
  apart : ∀ group, (storeLog network ops).filter (fun event => event.group = group) =
    storeLog network (ops.filter fun op => op.group = group)

def StoreOp.toMailbox : StoreOp → Mailbox.Op String Bytes
  | .pumpStore msg => .put msg.group msg.payload
  | .placeFailoverMessage group bytes => .put group bytes
  | .getMessage group _ => .take group

def StoreEvent.toMailbox : StoreEvent → Mailbox.Event String Bytes
  | .stored group bytes => .put group bytes
  | .got group _ true bytes => .took group (some bytes)
  | .got group _ false _ => .took group none

theorem get_message_into_spec (network : NetworkManager) (group : String) (buffer : Bytes) :
    network.getMessageInto group buffer =
      ({ network with recvMsgMap := Function.update network.recvMsgMap group none },
        (network.recvMsgMap group).isSome, (network.recvMsgMap group).getD buffer) := by
  rw [getMessageInto, getMessage]
  cases held : network.recvMsgMap group with
  | some bytes => rfl
  | none =>
      have empty : Function.update network.recvMsgMap group none = network.recvMsgMap := by
        rw [← held, Function.update_eq_self]
      rw [empty]
      rfl

theorem store_step_simulates (network : NetworkManager) (op : StoreOp) :
    Mailbox.step network.recvMsgMap op.toMailbox =
      ((storeStep network op).1.recvMsgMap, (storeStep network op).2.toMailbox) := by
  cases op with
  | pumpStore msg => rfl
  | placeFailoverMessage group bytes => rfl
  | getMessage group buffer =>
      rw [storeStep, get_message_into_spec, StoreOp.toMailbox, Mailbox.step]
      cases held : network.recvMsgMap group <;> rfl

theorem store_log_simulates (ops : List StoreOp) (network : NetworkManager) :
    (Runs.runLog Mailbox.step network.recvMsgMap (ops.map StoreOp.toMailbox)).2 =
      (storeLog network ops).map StoreEvent.toMailbox := by
  induction ops generalizing network with
  | nil => rfl
  | cons op rest ih =>
      have next := ih (storeStep network op).1
      rw [List.map_cons, Runs.runLog, store_step_simulates network op]
      exact congrArg (List.cons _) next

theorem leaves_to_mailbox (event : StoreEvent) (group : String) : event.toMailbox.Leaves group ↔ event.Leaves group := by
  cases event with
  | stored other bytes => rfl
  | got other buffer result bytes => cases result <;> simp [StoreEvent.toMailbox, Mailbox.Event.Leaves, StoreEvent.Leaves]

theorem undelivered_iff_pending (history : List StoreEvent) (group : String) (bytes : Bytes) :
    Undelivered history group bytes ↔ Mailbox.Pending (history.map StoreEvent.toMailbox) group bytes := by
  refine ⟨?_, ?_⟩
  · intro ⟨before, after, split, left⟩
    refine ⟨before.map StoreEvent.toMailbox, after.map StoreEvent.toMailbox, by rw [split, List.map_append]; rfl, ?_⟩
    intro event member
    obtain ⟨source, listed, same⟩ := List.mem_map.mp member
    rw [← same]
    exact (leaves_to_mailbox source group).mpr (left source listed)
  · intro ⟨before, after, split, left⟩
    obtain ⟨early, late, parted, _, lateSame⟩ := List.map_eq_append_iff.mp split
    obtain ⟨event, rest, headed, eventSame, restSame⟩ := List.map_eq_cons_iff.mp lateSame
    have here : event = .stored group bytes := by
      cases event with
      | stored other stored =>
          injection eventSame with groupSame bytesSame
          rw [groupSame, bytesSame]
      | got other buffer result got => cases result <;> cases eventSame
    refine ⟨early, rest, by rw [parted, headed, here], ?_⟩
    intro later member
    exact (leaves_to_mailbox later group).mp (left _ (restSame ▸ List.mem_map_of_mem member))

theorem got_of_log (ops : List StoreOp) (network : NetworkManager) (before after : List StoreEvent) (group : String)
    (buffer : Bytes) (result : Bool) (bytes : Bytes)
    (split : storeLog network ops = before ++ .got group buffer result bytes :: after) (refused : result = false) :
    bytes = buffer := by
  obtain ⟨first, op, rest, _, _, answered, _⟩ := Runs.run_log_split storeStep ops network before _ after split
  cases op with
  | pumpStore msg => cases answered
  | placeFailoverMessage other stored => cases answered
  | getMessage other given =>
      rw [storeStep, get_message_into_spec] at answered
      injection answered with _ givenSame resultSame bytesSame
      have empty := Option.not_isSome_iff_eq_none.mp (Bool.eq_false_iff.mp (resultSame.trans refused))
      rw [← bytesSame, ← givenSame, empty]
      rfl

theorem store_log_filter (ops : List StoreOp) (network other : NetworkManager) (group : String)
    (same : network.recvMsgMap group = other.recvMsgMap group) :
    (storeLog network ops).filter (fun event => event.group = group) =
      storeLog other (ops.filter fun op => op.group = group) := by
  apply Runs.run_log_filter storeStep _ _ fun state => state.recvMsgMap group
  · intro state op
    cases op <;> rfl
  · intro state op foreign
    have away : group ≠ op.group := Ne.symm (of_decide_eq_false foreign)
    cases op with
    | pumpStore msg => exact Function.update_of_ne away _ _
    | placeFailoverMessage target bytes => exact Function.update_of_ne away _ _
    | getMessage target buffer =>
        rw [storeStep, get_message_into_spec]
        exact Function.update_of_ne away _ _
  · intro left right op own agree
    have here : op.group = group := of_decide_eq_true own
    cases op with
    | pumpStore msg =>
        cases here
        exact ⟨rfl, by simp [storeStep, storeReceived, StoreOp.group]⟩
    | placeFailoverMessage target bytes =>
        cases here
        exact ⟨rfl, by simp [storeStep, placeFailoverMessage, StoreOp.group]⟩
    | getMessage target buffer =>
        cases here
        have held : left.recvMsgMap target = right.recvMsgMap target := agree
        simp [storeStep, get_message_into_spec, held, StoreOp.group]
  · exact same

theorem latest_value_mailbox (zmqRecvSock : List Arrival) (ops : List StoreOp) :
    LatestValueMailbox ⟨zmqRecvSock, fun _ => none⟩ ops := by
  have log := store_log_simulates ops ⟨zmqRecvSock, fun _ => none⟩
  refine ⟨?_, ?_, ?_⟩
  · intro before after group buffer result bytes split
    refine ⟨fun latest => ?_, got_of_log ops _ before after group buffer result bytes split⟩
    rw [split, List.map_append, List.map_cons] at log
    rw [undelivered_iff_pending]
    cases result with
    | true => simpa using Mailbox.took_iff_pending _ _ _ group (some bytes) log latest
    | false => simpa using Mailbox.took_iff_pending _ _ _ group none log latest
  · intro first second third group buffer1 buffer2 early late split
    rw [split] at log
    simp only [List.map_append, List.map_cons] at log
    rw [undelivered_iff_pending]
    exact Mailbox.took_again _ _ _ _ group early late log
  · intro group
    exact store_log_filter ops _ _ group rfl

def storedBy : List Arrival → List Datagram
  | .datagram msg :: rest => if msg.payload.length ≠ EAGAIN then msg :: storedBy rest else []
  | _ => []

theorem receive_loop_stores (arrivals : List Arrival) (network : NetworkManager) (external : ExternalControlManager)
    (notified : Nat) :
    (receiveLoop network external notified arrivals).network.recvMsgMap =
      ((storedBy arrivals).foldl storeReceived network).recvMsgMap := by
  induction arrivals generalizing network external notified with
  | nil => rfl
  | cons arrival rest ih =>
      cases arrival with
      | error what => rfl
      | datagram msg =>
          by_cases accepted : msg.payload.length ≠ EAGAIN
          · rw [receiveLoop, if_pos accepted, storedBy, if_pos accepted]
            exact ih (network.storeReceived msg) external.externalControlMsgReceived (notified + 1)
          · rw [receiveLoop, if_neg accepted, storedBy, if_neg accepted]
            rfl

end RioPassthru
