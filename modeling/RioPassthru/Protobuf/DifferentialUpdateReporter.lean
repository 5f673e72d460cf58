import RioPassthru.Protobuf.Differencer

set_option autoImplicit false

namespace RioPassthru

open Protobuf

structure UpdateCall where
  field : FieldDescriptor
  message : Message

-- registered says for which fields mUpdateFunctionMap holds a function.
structure DifferentialUpdateReporter where
  registered : FieldDescriptor → Bool

namespace DifferentialUpdateReporter

variable (reporter : DifferentialUpdateReporter)

def reportModified (message2 : Message) (fieldPath : List (Option FieldDescriptor)) : List UpdateCall :=
  (fieldPath.filterMap fun entry => entry.filter reporter.registered).map fun field => ⟨field, message2⟩

def reportAdded (message2 : Message) (fieldPath : List (Option FieldDescriptor)) : List UpdateCall :=
  reporter.reportModified message2 fieldPath

def reportDeleted (_reporter : DifferentialUpdateReporter) (_message2 : Message)
    (_fieldPath : List (Option FieldDescriptor)) : List UpdateCall := []

def receive (sent : Report) : List UpdateCall :=
  match sent.kind with
  | .added => reporter.reportAdded sent.message2 sent.fieldPath
  | .modified => reporter.reportModified sent.message2 sent.fieldPath
  | .deleted => reporter.reportDeleted sent.message2 sent.fieldPath

def compareWith (prev m : Message) : List UpdateCall := (Protobuf.compare [] prev m).2.flatMap reporter.receive

end DifferentialUpdateReporter

theorem mem_report_modified (reporter : DifferentialUpdateReporter) (message2 : Message)
    (fieldPath : List (Option FieldDescriptor)) (call : UpdateCall) :
    call ∈ reporter.reportModified message2 fieldPath ↔
      call.message = message2 ∧ some call.field ∈ fieldPath ∧ reporter.registered call.field = true := by
  constructor
  · intro member
    obtain ⟨field, listed, same⟩ := List.mem_map.mp member
    obtain ⟨entry, onPath, kept⟩ := List.mem_filterMap.mp listed
    obtain ⟨present, registered⟩ := Option.filter_eq_some_iff.mp kept
    rw [← same]
    exact ⟨rfl, present ▸ onPath, registered⟩
  · rintro ⟨same, onPath, registered⟩
    refine List.mem_map.mpr ⟨call.field, List.mem_filterMap.mpr ⟨some call.field, onPath, ?_⟩, ?_⟩
    · simp [Option.filter, registered]
    · cases call
      cases same
      rfl

theorem mem_receive (reporter : DifferentialUpdateReporter) (sent : Report) (call : UpdateCall) :
    call ∈ reporter.receive sent ↔
      sent.kind ≠ .deleted ∧ call.message = sent.message2 ∧ some call.field ∈ sent.fieldPath ∧
        reporter.registered call.field = true := by
  rw [DifferentialUpdateReporter.receive]
  cases sent.kind with
  | added =>
      rw [DifferentialUpdateReporter.reportAdded, mem_report_modified]
      simp
  | modified =>
      rw [mem_report_modified]
      simp
  | deleted => simp [DifferentialUpdateReporter.reportDeleted]

theorem values_equal_length (values1 values2 : List Value) (same : valuesEqual values1 values2 = true) :
    values1.length = values2.length := by
  induction values1 generalizing values2 with
  | nil =>
      cases values2 with
      | nil => rfl
      | cons value2 rest2 => cases same
  | cons value1 rest1 ih =>
      cases values2 with
      | nil => cases same
      | cons value2 rest2 =>
          rw [valuesEqual, Bool.and_eq_true] at same
          rw [List.length_cons, List.length_cons, ih rest2 same.2]

-- Elements of message1 beyond the end of message2's list, the rest being equal.
def cutBack : Field → Field → Bool
  | .repeated _ values1, .repeated _ values2 =>
      decide (values2.length < values1.length) && valuesEqual (values1.take values2.length) values2
  | _, _ => false

def Seen (prev m : Option Field) : Prop :=
  match prev, m with
  | none, some _ => True
  | some field1, some field2 => field1.equals field2 = false ∧ cutBack field1 field2 = false
  | _, none => False

theorem not_seen_self (message : Message) (ordered : message.hasNaN = false) (number : Nat) :
    ¬ Seen (message.field number) (message.field number) := by
  cases found : message.field number with
  | none => exact fun seen => seen
  | some own =>
      have listed : own ∈ message.fields := List.mem_of_find?_eq_some found
      have kept : own.hasNaN = false := by
        obtain ⟨fullName, unknown, fields⟩ := message
        rw [Message.hasNaN, fields_have_nan, List.any_eq_false] at ordered
        exact Bool.eq_false_iff.mpr (ordered own listed)
      intro seen
      have differs := seen.1
      rw [field_equals_self, kept] at differs
      cases differs

section Pair

variable (path : List (Option FieldDescriptor)) (message1 message2 : Message)

theorem repeated_seen_iff (values1 values2 : List Value) :
    (valuesEqual values1 values2 = false ∧
        (decide (values2.length < values1.length) && valuesEqual (values1.take values2.length) values2) = false) ↔
      valuesEqual (values1.take values2.length) values2 = false := by
  constructor
  · rintro ⟨differ, uncut⟩
    by_contra kept
    rw [Bool.not_eq_false] at kept
    rw [kept, Bool.and_true, decide_eq_false_iff_not] at uncut
    rw [List.take_of_length_le (Nat.le_of_not_lt uncut), differ] at kept
    cases kept
  · intro differ
    refine ⟨?_, by rw [differ, Bool.and_false]⟩
    by_contra same
    rw [Bool.not_eq_false] at same
    rw [List.take_of_length_le (Nat.le_of_eq (values_equal_length values1 values2 same)), same] at differ
    cases differ

theorem value_called_iff (entry : Option FieldDescriptor) (value1 value2 : Value) (inside : sizeOf value2 < sizeOf message2) :
    (∃ sent ∈ (compareFieldValue (path ++ [entry]) value1 value2).2 ++
        reportUnless path message1 message2 (compareFieldValue (path ++ [entry]) value1 value2).1 entry,
      sent.kind ≠ .deleted ∧ sent.message2 = message2) ↔ value1.equals value2 = false := by
  rw [compare_field_value_result]
  refine ⟨?_, ?_⟩
  · intro ⟨sent, member, _, same⟩
    obtain nested | own := List.mem_append.mp member
    · exact absurd same (nested_report_elsewhere _ value1 value2 message2 inside sent nested)
    · cases equal : value1.equals value2 with
      | false => rfl
      | true =>
          rw [equal] at own
          cases own
  · intro differ
    refine ⟨report path message1 message2 .modified entry, List.mem_append_right _ ?_, by simp [report], rfl⟩
    rw [differ]
    exact List.mem_singleton.mpr rfl

theorem value_own_path (entry : Option FieldDescriptor) (value1 value2 : Value) (inside : sizeOf value2 < sizeOf message2) :
    ∀ sent ∈ (compareFieldValue (path ++ [entry]) value1 value2).2 ++
        reportUnless path message1 message2 (compareFieldValue (path ++ [entry]) value1 value2).1 entry,
      sent.message2 = message2 → sent.fieldPath = path ++ [entry] := by
  intro sent member same
  obtain nested | own := List.mem_append.mp member
  · exact absurd same (nested_report_elsewhere _ value1 value2 message2 inside sent nested)
  · exact report_unless_own _ _ _ _ _ sent own ▸ rfl

theorem repeated_called_iff (entry : Option FieldDescriptor) (values1 values2 : List Value)
    (inside : sizeOf values2 < sizeOf message2) :
    (∃ sent ∈ (compareRepeatedRep path message1 message2 entry values1 values2).2,
        sent.kind ≠ .deleted ∧ sent.message2 = message2) ↔
      valuesEqual (values1.take values2.length) values2 = false := by
  induction values1 generalizing values2 with
  | nil =>
      cases values2 with
      | nil => simp [compareRepeatedRep, valuesEqual]
      | cons value2 rest2 => simp [compareRepeatedRep, valuesEqual, report]
  | cons value1 rest1 ih =>
      cases values2 with
      | nil => simp [compareRepeatedRep, valuesEqual, report]
      | cons value2 rest2 =>
          rw [List.cons.sizeOf_spec] at inside
          rw [List.length_cons, List.take_succ_cons, valuesEqual, Bool.and_eq_false_iff, ← ih rest2 (by omega),
            ← value_called_iff path message1 message2 entry value1 value2 (by omega), compareRepeatedRep]
          simp only [List.mem_append, or_and_right, exists_or]

theorem field_called_iff (field1 field2 : Field) (inside : sizeOf field2 < sizeOf message2) :
    (∃ sent ∈ (compareField path message1 message2 field1 field2).2,
        sent.kind ≠ .deleted ∧ sent.message2 = message2) ↔ Seen (some field1) (some field2) := by
  cases field1 with
  | singular number value1 =>
      cases field2 with
      | singular other value2 =>
          rw [Field.singular.sizeOf_spec] at inside
          simp only [Seen, cutBack, Field.equals, and_true, compareField]
          exact value_called_iff path message1 message2 _ value1 value2 (by omega)
      | repeated other values2 =>
          simp [Seen, cutBack, Field.equals, compareField, reportUnless, report]
  | repeated number values1 =>
      cases field2 with
      | singular other value2 =>
          simp [Seen, cutBack, Field.equals, compareField, reportUnless, report]
      | repeated other values2 =>
          rw [Field.repeated.sizeOf_spec] at inside
          simp only [Seen, cutBack, Field.equals, compareField]
          rw [repeated_called_iff path message1 message2 _ values1 values2 (by omega)]
          exact (repeated_seen_iff values1 values2).symm

theorem rest_own_path (entry : Option FieldDescriptor) (kind : ReportKind) (values : List Value) :
    ∀ sent ∈ values.map (fun _ => report path message1 message2 kind entry), sent.fieldPath = path ++ [entry] := by
  intro sent member
  obtain ⟨_, _, same⟩ := List.mem_map.mp member
  exact same ▸ rfl

theorem repeated_own_path (entry : Option FieldDescriptor) (values1 values2 : List Value)
    (inside : sizeOf values2 < sizeOf message2) :
    ∀ sent ∈ (compareRepeatedRep path message1 message2 entry values1 values2).2,
      sent.message2 = message2 → sent.fieldPath = path ++ [entry] := by
  induction values1 generalizing values2 with
  | nil =>
      intro sent member _
      rw [compareRepeatedRep] at member
      exact rest_own_path path message1 message2 entry _ values2 sent member
  | cons value1 rest1 ih =>
      cases values2 with
      | nil =>
          intro sent member _
          rw [compareRepeatedRep] at member
          exact rest_own_path path message1 message2 entry _ (value1 :: rest1) sent member
      | cons value2 rest2 =>
          intro sent member same
          rw [List.cons.sizeOf_spec] at inside
          rw [compareRepeatedRep] at member
          obtain own | later := List.mem_append.mp member
          · exact value_own_path path message1 message2 entry value1 value2 (by omega) sent own same
          · exact ih rest2 (by omega) sent later same

theorem field_own_path (field1 field2 : Field) (inside : sizeOf field2 < sizeOf message2) :
    ∀ sent ∈ (compareField path message1 message2 field1 field2).2,
      sent.message2 = message2 → sent.fieldPath = path ++ [some (descriptor message2 field1)] := by
  intro sent member same
  cases field1 with
  | singular number value1 =>
      cases field2 with
      | singular other value2 =>
          rw [Field.singular.sizeOf_spec] at inside
          rw [compareField] at member
          exact value_own_path path message1 message2 _ value1 value2 (by omega) sent member same
      | repeated other values2 =>
          simp only [compareField] at member
          exact report_unless_own _ _ _ _ _ sent member ▸ rfl
  | repeated number values1 =>
      cases field2 with
      | singular other value2 =>
          simp only [compareField] at member
          exact report_unless_own _ _ _ _ _ sent member ▸ rfl
      | repeated other values2 =>
          rw [Field.repeated.sizeOf_spec] at inside
          simp only [compareField] at member
          exact repeated_own_path path message1 message2 _ values1 values2 (by omega) sent member same

theorem pair_called_iff (pair : Option Field × Option Field) (number : Nat)
    (first : ∀ field1, pair.1 = some field1 → field1.number = number)
    (second : ∀ field2, pair.2 = some field2 → field2.number = number ∧ field2.listed = true ∧ sizeOf field2 < sizeOf message2) :
    (∃ sent ∈ pairReports path message1 message2 pair,
        sent.kind ≠ .deleted ∧ sent.message2 = message2) ↔ Seen pair.1 pair.2 := by
  obtain ⟨left, right⟩ := pair
  cases left with
  | none =>
      cases right with
      | none => simp [pairReports, Seen]
      | some field2 =>
          obtain ⟨_, listed, _⟩ := second field2 rfl
          simp only [pairReports, Seen, iff_true]
          cases field2 with
          | singular other value => exact ⟨_, List.mem_singleton.mpr rfl, by simp [report], rfl⟩
          | repeated other values =>
              obtain ⟨value, member⟩ := List.exists_mem_of_ne_nil values (by simpa [Field.listed] using listed)
              exact ⟨_, List.mem_map.mpr ⟨value, member, rfl⟩, by simp [report], rfl⟩
  | some field1 =>
      cases right with
      | none =>
          simp only [pairReports, Seen, iff_false]
          rintro ⟨sent, member, heard, _⟩
          exact heard (report_field_own _ _ _ _ _ sent member ▸ rfl)
      | some field2 => exact field_called_iff path message1 message2 field1 field2 (second field2 rfl).2.2

theorem pair_own_path (pair : Option Field × Option Field) (number : Nat)
    (first : ∀ field1, pair.1 = some field1 → field1.number = number)
    (second : ∀ field2, pair.2 = some field2 → field2.number = number ∧ field2.listed = true ∧ sizeOf field2 < sizeOf message2) :
    ∀ sent ∈ pairReports path message1 message2 pair, sent.message2 = message2 →
      sent.fieldPath = path ++ [some ⟨message2.fullName, number⟩] := by
  obtain ⟨left, right⟩ := pair
  intro sent member same
  cases left with
  | none =>
      cases right with
      | none => cases member
      | some field2 =>
          rw [report_field_own _ _ _ _ _ sent member, ← (second field2 rfl).1]
          rfl
  | some field1 =>
      rw [← first field1 rfl]
      cases right with
      | none =>
          rw [report_field_own _ _ _ _ _ sent member]
          rfl
      | some field2 =>
          exact field_own_path path message1 message2 field1 field2 (second field2 rfl).2.2 sent member same

end Pair

theorem size_of_field (message : Message) (number : Nat) (field : Field) (found : message.field number = some field) :
    sizeOf field < sizeOf message := by
  obtain ⟨fullName, unknown, fields⟩ := message
  have member : field ∈ fields := List.mem_of_find?_eq_some found
  have inside := List.sizeOf_lt_of_mem member
  rw [Message.mk.sizeOf_spec]
  omega

theorem field_number (message : Message) (number : Nat) (field : Field) (found : message.field number = some field) :
    field.number = number := by
  simpa using List.find?_some found

-- Only a message of the type passes the cast.
def getTypedMessage (fullName : String) (message : Message) : Option (Typed fullName) :=
  if typed : message.fullName = fullName ∧ message.wellFormed = true ∧ ∀ inside ∈ message.inner, inside.fullName ≠ fullName then
    some ⟨message, typed.1, typed.2.1, typed.2.2⟩
  else none

theorem get_typed_message {fullName : String} (m : Typed fullName) : getTypedMessage fullName m.message = some m := by
  rw [getTypedMessage, dif_pos ⟨m.typed, m.wellFormed, m.apart⟩]

theorem message_of_typed {fullName : String} (message : Message) (m : Typed fullName)
    (cast : getTypedMessage fullName message = some m) : m.message = message := by
  rw [getTypedMessage] at cast
  split at cast
  · injection cast with same
    rw [← same]
  · cases cast

section Messages

variable {fullName : String} (reporter : DifferentialUpdateReporter) (prev m : Typed fullName)

theorem compare_typed :
    (Protobuf.compare [] prev.message m.message).2 =
      (compareUnknownFields [] prev.message m.message (tagOrder prev.message.unknownFields)
        (tagOrder m.message.unknownFields)).2 ++
      (Align.align Field.number prev.message.fields m.message.fields).flatMap
        (pairReports [] prev.message m.message) := by
  obtain ⟨⟨prevName, prevUnknown, prevFields⟩, prevTyped, _⟩ := prev
  obtain ⟨⟨name, unknown, fields⟩, typed, _⟩ := m
  have same : prevName = name := prevTyped.trans typed.symm
  rw [Protobuf.compare, if_neg (not_not.mpr same)]
  simp only [compare_with_fields_reports]
  rfl

theorem pair_of_number (number : Nat) :
    (∀ field1, prev.message.field number = some field1 → field1.number = number) ∧
      ∀ field2, m.message.field number = some field2 →
        field2.number = number ∧ field2.listed = true ∧ sizeOf field2 < sizeOf m.message :=
  ⟨fun field1 found => field_number prev.message number field1 found, fun field2 found =>
    ⟨field_number m.message number field2 found, (well_formed_field m.message m.wellFormed number field2 found).1,
      size_of_field m.message number field2 found⟩⟩

theorem compare_with_called_iff (number : Nat) (registered : reporter.registered ⟨fullName, number⟩ = true) :
    ⟨⟨fullName, number⟩, m.message⟩ ∈ reporter.compareWith prev.message m.message ↔
      Seen (prev.message.field number) (m.message.field number) := by
  have aligned := Align.mem_align_iff Field.number prev.message.fields m.message.fields
    (well_formed_ascending prev.message prev.wellFormed) (well_formed_ascending m.message m.wellFormed)
  rw [DifferentialUpdateReporter.compareWith, List.mem_flatMap, compare_typed]
  constructor
  · rintro ⟨sent, member, received⟩
    obtain ⟨heard, carried, onPath, _⟩ := (mem_receive reporter sent _).mp received
    rcases List.mem_append.mp member with unknown | listed
    · have path := (compare_unknown_reports _ _ _ _ _ sent unknown).2
      rw [path] at onPath
      simp at onPath
    · obtain ⟨pair, held, inPair⟩ := List.mem_flatMap.mp listed
      obtain ⟨place, same, _⟩ := (aligned pair).mp held
      obtain ⟨first, second⟩ := pair_of_number prev m place
      rw [same] at inPair
      have path := pair_own_path [] prev.message m.message _ place first second sent inPair carried.symm
      rw [path] at onPath
      have here : number = place := by
        simp only [List.nil_append, List.mem_singleton, Option.some.injEq, FieldDescriptor.mk.injEq] at onPath
        exact onPath.2
      rw [here]
      exact (pair_called_iff [] prev.message m.message _ place first second).mp ⟨sent, inPair, heard, carried.symm⟩
  · intro seen
    obtain ⟨first, second⟩ := pair_of_number prev m number
    obtain ⟨sent, inPair, heard, carried⟩ :=
      (pair_called_iff [] prev.message m.message (prev.message.field number, m.message.field number) number
        first second).mpr seen
    have path := pair_own_path [] prev.message m.message _ number first second sent inPair carried
    have present : (prev.message.field number, m.message.field number) ≠ (none, none) := by
      intro absent
      rw [absent] at inPair
      cases inPair
    refine ⟨sent, List.mem_append_right _ (List.mem_flatMap.mpr ⟨_, (aligned _).mpr ⟨number, rfl, present⟩, inPair⟩), ?_⟩
    refine (mem_receive reporter sent _).mpr ⟨heard, carried.symm, ?_, registered⟩
    rw [path, m.typed]
    exact List.mem_singleton.mpr rfl

-- A report carries m itself or something inside it, and nothing inside has its type.
theorem typed_report (sent : Report) (member : sent ∈ (Protobuf.compare [] prev.message m.message).2)
    (typed : sent.message2.fullName = fullName) : sent.message2 = m.message := by
  obtain same | inside := compare_reports_inner [] prev.message m.message sent member
  · exact same
  · exact absurd typed (m.apart _ inside)

theorem own_report_path (sent : Report) (member : sent ∈ (Protobuf.compare [] prev.message m.message).2)
    (own : sent.message2 = m.message) :
    sent.fieldPath = [none] ∨ ∃ place : Nat, sent.fieldPath = [some ⟨fullName, place⟩] := by
  rw [compare_typed] at member
  obtain unknown | listed := List.mem_append.mp member
  · exact Or.inl (compare_unknown_reports _ _ _ _ _ sent unknown).2
  · obtain ⟨pair, held, inPair⟩ := List.mem_flatMap.mp listed
    obtain ⟨place, same, _⟩ := (Align.mem_align_iff Field.number prev.message.fields m.message.fields
      (well_formed_ascending prev.message prev.wellFormed) (well_formed_ascending m.message m.wellFormed) pair).mp held
    obtain ⟨first, second⟩ := pair_of_number prev m place
    rw [same] at inPair
    have path := pair_own_path [] prev.message m.message _ place first second sent inPair own
    rw [m.typed] at path
    exact Or.inr ⟨place, path⟩

theorem compare_with_typed_call (call : UpdateCall) (called : call ∈ reporter.compareWith prev.message m.message)
    (typed : call.message.fullName = fullName) :
    call.message = m.message ∧ ∃ number, call.field = ⟨fullName, number⟩ ∧
      reporter.registered ⟨fullName, number⟩ = true ∧ Seen (prev.message.field number) (m.message.field number) := by
  obtain ⟨sent, member, received⟩ := List.mem_flatMap.mp called
  obtain ⟨_, carried, onPath, registered⟩ := (mem_receive reporter sent call).mp received
  have own := typed_report prev m sent member (carried ▸ typed)
  refine ⟨carried.trans own, ?_⟩
  obtain path | ⟨place, path⟩ := own_report_path prev m sent member own
  · rw [path] at onPath
    simp at onPath
  · rw [path, List.mem_singleton, Option.some.injEq] at onPath
    have field : call = ⟨⟨fullName, place⟩, m.message⟩ := by
      cases call
      simp only [UpdateCall.mk.injEq]
      exact ⟨onPath, carried.trans own⟩
    refine ⟨place, onPath, onPath ▸ registered, ?_⟩
    exact (compare_with_called_iff reporter prev m place (onPath ▸ registered)).mp (field ▸ called)

theorem typed_of_called (call : UpdateCall) (called : call ∈ reporter.compareWith prev.message m.message) :
    getTypedMessage fullName call.message = if call.message.fullName = fullName then some m else none := by
  by_cases typed : call.message.fullName = fullName
  · rw [if_pos typed, (compare_with_typed_call reporter prev m call called typed).1, get_typed_message]
  · rw [if_neg typed, getTypedMessage, dif_neg fun same => typed same.1]

theorem called_writes_nil_iff {Write : Type} (writes : Nat → List Write) :
    (∀ call ∈ reporter.compareWith prev.message m.message, call.message.fullName = fullName → writes call.field.number = []) ↔
      ∀ number, reporter.registered ⟨fullName, number⟩ = true → Seen (prev.message.field number) (m.message.field number) →
        writes number = [] := by
  refine ⟨?_, ?_⟩
  · intro none number registered seen
    exact none _ ((compare_with_called_iff reporter prev m number registered).mpr seen) m.typed
  · intro none call called typed
    obtain ⟨_, number, field, registered, seen⟩ := compare_with_typed_call reporter prev m call called typed
    rw [field]
    exact none number registered seen

end Messages

def Differs (prev m : Option Field) : Prop :=
  match prev, m with
  | none, none => False
  | some field1, some field2 => field1.equals field2 = false
  | _, _ => True

instance (prev m : Option Field) : Decidable (Differs prev m) := by
  unfold Differs
  split <;> infer_instance

-- m no longer lists the field, or is left with the first elements of a repeated one.
def Dropped (prev m : Option Field) : Prop :=
  match prev, m with
  | some _, none => True
  | some field1, some field2 => cutBack field1 field2 = true
  | none, _ => False

theorem equals_of_cut_back (field1 field2 : Field) (cut : cutBack field1 field2 = true) :
    field1.equals field2 = false := by
  cases field1 with
  | singular number value1 => cases cut
  | repeated number values1 =>
      cases field2 with
      | singular other value2 => cases cut
      | repeated other values2 =>
          rw [cutBack, Bool.and_eq_true, decide_eq_true_eq] at cut
          rw [Field.equals]
          by_contra same
          rw [Bool.not_eq_false] at same
          have length := values_equal_length values1 values2 same
          omega

theorem seen_iff_not_dropped (prev m : Option Field) : (Differs prev m → Seen prev m) ↔ ¬ Dropped prev m := by
  cases prev with
  | none => cases m <;> simp [Differs, Seen, Dropped]
  | some field1 =>
      cases m with
      | none => simp [Differs, Seen, Dropped]
      | some field2 =>
          have cut := equals_of_cut_back field1 field2
          cases h : cutBack field1 field2 with
          | true => simp [Differs, Seen, Dropped, h, cut h]
          | false => simp [Differs, Seen, Dropped, h]

def MissesNoChange (reporter : DifferentialUpdateReporter) {fullName : String} (prev m : Typed fullName) : Prop :=
  ∀ number, reporter.registered ⟨fullName, number⟩ = true →
    Differs (prev.message.field number) (m.message.field number) →
    ⟨⟨fullName, number⟩, m.message⟩ ∈ reporter.compareWith prev.message m.message

theorem misses_no_change_iff (reporter : DifferentialUpdateReporter) {fullName : String} (prev m : Typed fullName) :
    MissesNoChange reporter prev m ↔
      ∀ number, reporter.registered ⟨fullName, number⟩ = true →
        ¬ Dropped (prev.message.field number) (m.message.field number) := by
  constructor
  · intro complete number registered
    apply (seen_iff_not_dropped _ _).mp
    intro differs
    exact (compare_with_called_iff reporter prev m number registered).mp (complete number registered differs)
  · intro kept number registered differs
    apply (compare_with_called_iff reporter prev m number registered).mpr
    exact (seen_iff_not_dropped _ _).mpr (kept number registered) differs

-- The fields for which ApplyMotorConfigTask and ApplyLEDControlTask register a function.
def motorFullName : String := "ck.MotorConfiguration.Motor"

def ledControlFullName : String := "ck.LEDControl.LEDControlData"

def motorUpdateFields : List Nat := (List.range' 4 31) ++ List.range' 36 6

def ledUpdateFields : List Nat := [3, 4, 5, 6, 7, 8]

def registeredIn (fullName : String) (numbers : List Nat) : DifferentialUpdateReporter :=
  ⟨fun field => decide (field.containingType = fullName) && decide (field.number ∈ numbers)⟩

def tunedMotor : Typed motorFullName where
  message := .mk motorFullName [] [.singular 1 (.scalar (.int 7)), .singular 4 (.scalar (.double (.finite (1 / 2))))]
  typed := rfl
  wellFormed := by decide +kernel
  apart := by decide

def resetMotor : Typed motorFullName where
  message := .mk motorFullName [] [.singular 1 (.scalar (.int 7))]
  typed := rfl
  wellFormed := by decide
  apart := by decide

theorem reset_gain_is_missed :
    ¬ ∀ prev m : Typed motorFullName, MissesNoChange (registeredIn motorFullName motorUpdateFields) prev m := by
  intro always
  have called := always tunedMotor resetMotor 4 rfl trivial
  have silent : (registeredIn motorFullName motorUpdateFields).compareWith tunedMotor.message resetMotor.message = [] := rfl
  rw [silent] at called
  cases called

end RioPassthru
