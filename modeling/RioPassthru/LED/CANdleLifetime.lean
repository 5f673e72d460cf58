import RioPassthru.Devices.DeviceWatchdogs
import RioPassthru.LED.LEDEntries
import RioPassthru.Lib.Runs

set_option autoImplicit false

namespace RioPassthru

open Protobuf

-- registerCANdle is called by the entries only, and an entry is processed right after it:
-- the first entry of an object is the one that made it.
structure NewCANdlesFull (proto : LEDProto) (candles : CANdleManager) (op : LEDOp) : Prop where
  covered : ∀ id, id ∉ candles.mRegisteredCANdleList → id ∈ (ledStep proto candles op).mRegisteredCANdleList →
    ∃ entry ∈ ledEntryRuns proto candles op, entry.id = id ∧ entry.created = true
  full : ∀ entry ∈ ledEntryRuns proto candles op, entry.created = true → entry.differential = false

section Lifetime

variable (proto : LEDProto)

-- Every entry with an id below 64 is registered and recorded; at one that makes an object
-- the number of ids recorded by then must not be the number of entries.
def NewNeverMiscounted (size : Nat) : Finset Nat → Finset Nat → List LEDControlData → Prop
  | _, _, [] => True
  | registered, recorded, m :: rest =>
      let id := ApplyLEDControlTask.entryId proto m
      if id < 64 then
        (id ∉ registered → size ≠ recorded.card) ∧ NewNeverMiscounted size (insert id registered) (insert id recorded) rest
      else NewNeverMiscounted size registered recorded rest

def LEDCounted (candles : CANdleManager) : LEDOp → Prop
  | .applyLEDControl input =>
      input.locked = true → ∀ message, input.message = some message →
        NewNeverMiscounted proto message.length (keySet candles.mRegisteredCANdleList) (keySet candles.mPrevCANdleMsgs) message
  | .processHeartbeat => True

def CANdleManager.Below (candles : CANdleManager) : Prop := ∀ id, id ∈ candles.mRegisteredCANdleList → id < 64

theorem register_below (candles : CANdleManager) (below : candles.Below) (id : Nat) (canInterface : Int) :
    (candles.registerCANdle id canInterface).Below := by
  intro key held
  have before := below key
  grind [CANdleManager.registerCANdle, CANdleManager.beat]

theorem mem_register (candles : CANdleManager) (id key : Nat) (canInterface : Int) :
    key ∈ (candles.registerCANdle id canInterface).mRegisteredCANdleList ↔
      key ∈ candles.mRegisteredCANdleList ∨ id < 64 ∧ key = id := by
  grind [CANdleManager.registerCANdle, CANdleManager.beat]

theorem registered_after (candles : CANdleManager) (below : candles.Below) (id : Nat) (canInterface : Int) :
    id ∈ (candles.registerCANdle id canInterface).mRegisteredCANdleList ↔ id < 64 := by
  rw [mem_register]
  exact ⟨fun held => held.elim (below id) And.left, fun small => Or.inr ⟨small, rfl⟩⟩

theorem created_iff (candles : CANdleManager) (id : Nat) :
    (!candles.candleExists id) = true ↔ id ∉ candles.mRegisteredCANdleList := by
  rw [CANdleManager.candleExists, Bool.not_eq_true', ← Bool.not_eq_true, Std.ExtTreeMap.contains_iff_mem]

def FullIfCreated (entry : LEDEntryRun) : Prop := entry.created = true → entry.differential = false

-- Induction over the entries: objects and records come one by one, and the branch of each
-- entry is what the counts say.
theorem apply_entries_created (size : Nat) (message : List LEDControlData) (candles : CANdleManager) (below : candles.Below) :
    let result := ApplyLEDControlTask.applyEntries proto size candles message
    result.1.Below ∧
      (∀ id, id ∉ candles.mRegisteredCANdleList → id ∈ result.1.mRegisteredCANdleList →
        ∃ entry ∈ result.2, entry.id = id ∧ entry.created = true) ∧
      ((∀ entry ∈ result.2, FullIfCreated entry) ↔
        NewNeverMiscounted proto size (keySet candles.mRegisteredCANdleList) (keySet candles.mPrevCANdleMsgs) message) := by
  induction message generalizing candles with
  | nil => exact ⟨below, fun id absent held => absurd held absent, by simp [ApplyLEDControlTask.applyEntries, NewNeverMiscounted]⟩
  | cons m rest ih =>
      have spec := ApplyLEDControlTask.apply_entry_spec proto candles m size
      rw [ApplyLEDControlTask.applyEntries, NewNeverMiscounted]
      by_cases small : ApplyLEDControlTask.entryId proto m < 64
      · have held := (registered_after candles below _ (m.canNetwork proto)).mpr small
        have listed := fun key => mem_register candles (ApplyLEDControlTask.entryId proto m) key (m.canNetwork proto)
        have registered : keySet (candles.registerCANdle (ApplyLEDControlTask.entryId proto m)
            (m.canNetwork proto)).mRegisteredCANdleList =
              insert (ApplyLEDControlTask.entryId proto m) (keySet candles.mRegisteredCANdleList) := by
          ext key
          rw [mem_key_set, listed, Finset.mem_insert, mem_key_set, and_iff_right small, or_comm]
        have recorded := ApplyLEDControlTask.register_prev candles (ApplyLEDControlTask.entryId proto m) (m.canNetwork proto)
        obtain ⟨later, covered, full⟩ := ih
          ((candles.registerCANdle (ApplyLEDControlTask.entryId proto m) (m.canNetwork proto)).setPrevCANdleConfigMsg
            (ApplyLEDControlTask.entryId proto m) m)
          (register_below candles below _ _)
        simp only [if_pos held] at spec
        simp only [spec, if_pos small, List.cons_append, List.nil_append]
        refine ⟨later, ?_, ?_⟩
        · intro id absent found
          by_cases now : id ∈ (candles.registerCANdle (ApplyLEDControlTask.entryId proto m) (m.canNetwork proto)).mRegisteredCANdleList
          · have own : id = ApplyLEDControlTask.entryId proto m := ((listed id).mp now).elim (fun before => absurd before absent) And.right
            refine ⟨_, List.mem_cons_self, own.symm, ?_⟩
            exact (created_iff candles _).mpr (own ▸ absent)
          · obtain ⟨entry, member, same⟩ := covered id now found
            exact ⟨entry, List.mem_cons_of_mem _ member, same⟩
        · rw [List.forall_mem_cons, full]
          simp only [CANdleManager.setPrevCANdleConfigMsg, registered, recorded, key_set_insert]
          refine and_congr ?_ Iff.rfl
          rw [mem_key_set, card_key_set, FullIfCreated, created_iff, decide_eq_false_iff_not]
      · have absent : ApplyLEDControlTask.entryId proto m ∉
            (candles.registerCANdle (ApplyLEDControlTask.entryId proto m) (m.canNetwork proto)).mRegisteredCANdleList :=
          fun held => small ((registered_after candles below _ _).mp held)
        have unchanged : candles.registerCANdle (ApplyLEDControlTask.entryId proto m) (m.canNetwork proto) = candles := if_neg small
        simp only [if_neg absent] at spec
        rw [unchanged] at spec
        simp only [spec, if_neg small, List.nil_append]
        exact ih candles below

theorem process_heartbeat_list (candles : CANdleManager) (id : Nat)
    (held : id ∈ candles.processHeartbeat.mRegisteredCANdleList) : id ∈ candles.mRegisteredCANdleList := by
  have visits : candles.processHeartbeat = Expiry.loop CANdleManager.tick CANdleManager.beats candles := rfl
  rw [visits, CANdleManager.tick_eq_visit] at held
  exact Expiry.loop_only_drops CANdleManager.watchdog_drops candles id held

theorem led_step_below (candles : CANdleManager) (below : candles.Below) (op : LEDOp) : (ledStep proto candles op).Below := by
  cases op with
  | processHeartbeat => exact fun id held => below id (process_heartbeat_list candles id held)
  | applyLEDControl input =>
      rw [ledStep, ApplyLEDControlTask.run]
      split
      · split
        · rename_i candlesUpdate _ _
          exact (apply_entries_created proto _ candlesUpdate (candles.setCANdlesConfigMsg proto candlesUpdate) below).1
        · exact below
      · exact below

theorem new_candles_full_iff (candles : CANdleManager) (op : LEDOp) (below : candles.Below) :
    NewCANdlesFull proto candles op ↔ LEDCounted proto candles op := by
  cases op with
  | processHeartbeat =>
      refine iff_of_true ⟨?_, fun entry member => absurd member List.not_mem_nil⟩ trivial
      exact fun id absent held => absurd (process_heartbeat_list candles id held) absent
  | applyLEDControl input =>
      have skipped : ledStep proto candles (.applyLEDControl input) = candles →
          ledEntryRuns proto candles (.applyLEDControl input) = [] → NewCANdlesFull proto candles (.applyLEDControl input) := by
        intro same none
        refine ⟨?_, ?_⟩
        · rw [same]
          exact fun id absent held => absurd held absent
        · rw [none]
          exact fun entry member => absurd member List.not_mem_nil
      obtain ⟨message, locked⟩ := input
      cases message with
      | none => exact iff_of_true (skipped rfl rfl) fun _ _ none => nomatch none
      | some message =>
          cases locked with
          | false => exact iff_of_true (skipped rfl rfl) fun closed => nomatch closed
          | true =>
              obtain ⟨_, covered, full⟩ := apply_entries_created proto message.length message
                (candles.setCANdlesConfigMsg proto message) below
              refine ⟨?_, ?_⟩
              · intro new _ entries same
                cases same
                exact full.mp new.full
              · intro counted
                exact ⟨covered, full.mpr (counted rfl message rfl)⟩

theorem empty_below : CANdleManager.empty.Below := by
  intro id held
  simp [CANdleManager.empty] at held

theorem new_candles_configured_iff (ops : List LEDOp) :
    Runs.EachStep (ledStep proto) (NewCANdlesFull proto) .empty ops ↔
      Runs.EachStep (ledStep proto) (LEDCounted proto) .empty ops :=
  Runs.each_step_iff_of_invariant (ledStep proto) CANdleManager.Below _ _ (new_candles_full_iff proto)
    (fun candles op below _ => led_step_below proto candles below op) ops _ empty_below

end Lifetime

def plainCANdle : LEDControlData :=
  ⟨.mk ledControlFullName [] [.singular 1 (.scalar (.int 7))], rfl, by decide, by decide⟩

def plainLEDProto : LEDProto :=
  ⟨1, 2, ⟨1, 2, 3, 4⟩, ⟨1, 2, 3⟩, ⟨1, 2, 3, 4, 5, 6, 7, 8⟩, fun _ => .other, fun _ => .other⟩

def configureOp : LEDOp := .applyLEDControl ⟨some [plainCANdle], true⟩

-- 250 heartbeats take the CANdle away and leave the message it was configured with.
theorem returning_candle_gets_no_full_update :
    ¬ ∀ (proto : LEDProto) (ops : List LEDOp), Runs.EachStep (ledStep proto) (NewCANdlesFull proto) .empty ops := by
  intro always
  have run := always plainLEDProto ((configureOp :: List.replicate 250 .processHeartbeat) ++ [configureOp])
  have returning := ((Runs.each_step_append _ _ _ _ _).mp run).2.1.full
  revert returning
  decide +kernel

end RioPassthru
