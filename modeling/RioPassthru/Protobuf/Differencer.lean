import RioPassthru.Protobuf.Message

set_option autoImplicit false

namespace Protobuf

structure FieldDescriptor where
  containingType : String
  number : Nat
deriving DecidableEq, Repr

inductive ReportKind where
  | added
  | modified
  | deleted
deriving DecidableEq, Repr

-- One call of the reporter. fieldPath holds the field of every SpecificField on the
-- path; for an unknown field that is a null pointer.
structure Report where
  kind : ReportKind
  message1 : Message
  message2 : Message
  fieldPath : List (Option FieldDescriptor)

-- MessageDifferencer in its constructor mode (EQUAL, FULL, AS_LIST) with a reporter, and
-- with matches and moves not reported. None of the types is an Any or has a map field.
section Pair

variable (path : List (Option FieldDescriptor)) (message1 message2 : Message)

def report (kind : ReportKind) (entry : Option FieldDescriptor) : Report :=
  ⟨kind, message1, message2, path ++ [entry]⟩

def descriptor (field : Field) : FieldDescriptor := ⟨message2.fullName, field.number⟩

def reportField (kind : ReportKind) (field : Field) : List Report :=
  match field with
  | .singular _ _ => [report path message1 message2 kind (some (descriptor message2 field))]
  | .repeated _ values => values.map fun _ => report path message1 message2 kind (some (descriptor message2 field))

def reportUnless (same : Bool) (entry : Option FieldDescriptor) : List Report :=
  if same then [] else [report path message1 message2 .modified entry]

def compareUnknownFields : List UnknownField → List UnknownField → Bool × List Report
  | [], unknown2 => (unknown2.isEmpty, unknown2.map fun _ => report path message1 message2 .added none)
  | unknown1 :: rest1, unknown2 =>
      let skipped := unknown2.takeWhile fun other => other.before unknown1
      let added := skipped.map fun _ => report path message1 message2 .added none
      match unknown2.dropWhile fun other => other.before unknown1 with
      | [] =>
          let later := compareUnknownFields rest1 []
          (false, added ++ report path message1 message2 .deleted none :: later.2)
      | other :: rest2 =>
          if unknown1.before other then
            let later := compareUnknownFields rest1 (other :: rest2)
            (false, added ++ report path message1 message2 .deleted none :: later.2)
          else
            let same := decide (unknown1.payload = other.payload)
            let later := compareUnknownFields rest1 rest2
            (skipped.isEmpty && same && later.1,
              added ++ reportUnless path message1 message2 same none ++ later.2)

end Pair

mutual
def compare (path : List (Option FieldDescriptor)) : Message → Message → Bool × List Report
  | .mk fullName1 unknown1 fields1, .mk fullName2 unknown2 fields2 =>
      if fullName1 ≠ fullName2 then (false, [])
      else
        let message1 := Message.mk fullName1 unknown1 fields1
        let message2 := Message.mk fullName2 unknown2 fields2
        let unknown := compareUnknownFields path message1 message2 (tagOrder unknown1) (tagOrder unknown2)
        let listed := compareWithFields path message1 message2 fields1 fields2
        (listed.1 && unknown.1, unknown.2 ++ listed.2)
termination_by structural message => message
-- CompareWithFieldsInternal: both lists are ordered by number, and the fields of
-- message2 below the next one of message1 are the added ones.
def compareWithFields (path : List (Option FieldDescriptor)) (message1 message2 : Message) :
    List Field → List Field → Bool × List Report
  | [], fields2 => (fields2.isEmpty, fields2.flatMap (reportField path message1 message2 .added))
  | field1 :: rest1, fields2 =>
      let skipped := fields2.takeWhile fun field2 => field2.number < field1.number
      let added := skipped.flatMap (reportField path message1 message2 .added)
      match fields2.dropWhile fun field2 => field2.number < field1.number with
      | [] =>
          let later := compareWithFields path message1 message2 rest1 []
          (false, added ++ reportField path message1 message2 .deleted field1 ++ later.2)
      | field2 :: rest2 =>
          if field1.number = field2.number then
            let field := compareField path message1 message2 field1 field2
            let later := compareWithFields path message1 message2 rest1 rest2
            (skipped.isEmpty && field.1 && later.1, added ++ field.2 ++ later.2)
          else
            let later := compareWithFields path message1 message2 rest1 (field2 :: rest2)
            (false, added ++ reportField path message1 message2 .deleted field1 ++ later.2)
termination_by structural fields => fields
def compareField (path : List (Option FieldDescriptor)) (message1 message2 : Message) :
    Field → Field → Bool × List Report
  | .singular number value1, .singular _ value2 =>
      let entry := some ⟨message2.fullName, number⟩
      let value := compareFieldValue (path ++ [entry]) value1 value2
      (value.1, value.2 ++ reportUnless path message1 message2 value.1 entry)
  | .repeated number values1, .repeated _ values2 =>
      compareRepeatedRep path message1 message2 (some ⟨message2.fullName, number⟩) values1 values2
  | field1, _ => (false, reportUnless path message1 message2 false (some (descriptor message2 field1)))
termination_by structural field => field
def compareFieldValue (path : List (Option FieldDescriptor)) : Value → Value → Bool × List Report
  | .scalar scalar1, .scalar scalar2 => (scalar1.equals scalar2, [])
  | .message nested1, .message nested2 => compare path nested1 nested2
  | _, _ => (false, [])
termination_by structural value => value
def compareRepeatedRep (path : List (Option FieldDescriptor)) (message1 message2 : Message)
    (entry : Option FieldDescriptor) : List Value → List Value → Bool × List Report
  | [], values2 => (values2.isEmpty, values2.map fun _ => report path message1 message2 .added entry)
  | value1 :: rest1, value2 :: rest2 =>
      let value := compareFieldValue (path ++ [entry]) value1 value2
      let later := compareRepeatedRep path message1 message2 entry rest1 rest2
      (value.1 && later.1, value.2 ++ reportUnless path message1 message2 value.1 entry ++ later.2)
  | value1 :: rest1, [] =>
      (false, (value1 :: rest1).map fun _ => report path message1 message2 .deleted entry)
termination_by structural values => values
end

theorem before_trichotomy (left right : UnknownField) (notLeft : ¬ left.before right) (notRight : ¬ right.before left) :
    left.number = right.number ∧ left.type = right.type := by
  simp only [UnknownField.before] at notLeft notRight
  omega

theorem unknown_ext (left right : UnknownField) (number : left.number = right.number)
    (type : left.type = right.type) (payload : left.payload = right.payload) : left = right := by
  cases left
  cases right
  simp_all

theorem not_before_self (field : UnknownField) : ¬ field.before field := by
  simp only [UnknownField.before]
  omega

theorem compare_unknown_result (path : List (Option FieldDescriptor)) (message1 message2 : Message)
    (unknown1 unknown2 : List UnknownField) :
    (compareUnknownFields path message1 message2 unknown1 unknown2).1 = decide (unknown1 = unknown2) := by
  induction unknown1 generalizing unknown2 with
  | nil => cases unknown2 <;> rfl
  | cons head rest ih =>
      cases unknown2 with
      | nil => rfl
      | cons other rest2 =>
          rw [compareUnknownFields]
          by_cases skip : other.before head
          · have differ : head :: rest ≠ other :: rest2 := by
              intro same
              cases same
              exact not_before_self head skip
            rw [List.takeWhile_cons_of_pos (by simpa using skip), decide_eq_false differ]
            simp only [List.isEmpty_cons, Bool.false_and]
            split
            · rfl
            · split <;> rfl
          · rw [List.takeWhile_cons_of_neg (by simpa using skip), List.dropWhile_cons_of_neg (by simpa using skip)]
            by_cases gone : head.before other
            · have differ : head :: rest ≠ other :: rest2 := by
                intro same
                cases same
                exact not_before_self head gone
              simp only [if_pos gone, decide_eq_false differ]
            · obtain ⟨number, type⟩ := before_trichotomy head other gone skip
              have ext : head = other ↔ head.payload = other.payload :=
                ⟨fun same => same ▸ rfl, unknown_ext head other number type⟩
              simp only [if_neg gone, List.isEmpty_nil, Bool.true_and, ih, List.cons.injEq, ext, Bool.decide_and]

-- The outcome of Compare does not depend on the reports: it is field by field equality.
mutual
theorem compare_result (path : List (Option FieldDescriptor)) (message1 message2 : Message) :
    (compare path message1 message2).1 = message1.equals message2 := by
  obtain ⟨fullName1, unknown1, fields1⟩ := message1
  obtain ⟨fullName2, unknown2, fields2⟩ := message2
  rw [compare, Message.equals]
  by_cases same : fullName1 = fullName2
  · rw [if_neg (not_not.mpr same), decide_eq_true same]
    simp only [compare_unknown_result, compare_with_fields_result path _ _ fields1 fields2, Bool.true_and,
      Bool.and_comm]
  · rw [if_pos same, decide_eq_false same]
    rfl
termination_by structural message1
theorem compare_with_fields_result (path : List (Option FieldDescriptor)) (message1 message2 : Message)
    (fields1 fields2 : List Field) :
    (compareWithFields path message1 message2 fields1 fields2).1 = fieldsEqual fields1 fields2 := by
  cases fields1 with
  | nil => cases fields2 <;> rfl
  | cons field1 rest1 =>
      cases fields2 with
      | nil => rfl
      | cons field2 rest2 =>
          rw [compareWithFields, fieldsEqual]
          by_cases skip : field2.number < field1.number
          · rw [List.takeWhile_cons_of_pos (by simpa using skip), decide_eq_false (by omega)]
            simp only [List.isEmpty_cons, Bool.false_and]
            split
            · rfl
            · split <;> rfl
          · rw [List.takeWhile_cons_of_neg (by simpa using skip), List.dropWhile_cons_of_neg (by simpa using skip)]
            by_cases same : field1.number = field2.number
            · simp only [if_pos same, decide_eq_true same, List.isEmpty_nil, Bool.true_and]
              rw [compare_field_result path message1 message2 field1 field2,
                compare_with_fields_result path message1 message2 rest1 rest2]
            · simp only [if_neg same, decide_eq_false same, Bool.false_and]
termination_by structural fields1
theorem compare_field_result (path : List (Option FieldDescriptor)) (message1 message2 : Message)
    (field1 field2 : Field) :
    (compareField path message1 message2 field1 field2).1 = field1.equals field2 := by
  cases field1 with
  | singular number value1 =>
      cases field2 with
      | singular _ value2 =>
          rw [compareField, Field.equals]
          exact compare_field_value_result _ value1 value2
      | repeated _ values2 => rfl
  | repeated number values1 =>
      cases field2 with
      | singular _ value2 => rfl
      | repeated _ values2 =>
          rw [compareField, Field.equals]
          exact compare_repeated_result path message1 message2 _ values1 values2
termination_by structural field1
theorem compare_field_value_result (path : List (Option FieldDescriptor)) (value1 value2 : Value) :
    (compareFieldValue path value1 value2).1 = value1.equals value2 := by
  cases value1 with
  | scalar scalar1 => cases value2 <;> rfl
  | message nested1 =>
      cases value2 with
      | scalar _ => rfl
      | message nested2 =>
          rw [compareFieldValue, Value.equals]
          exact compare_result path nested1 nested2
termination_by structural value1
theorem compare_repeated_result (path : List (Option FieldDescriptor)) (message1 message2 : Message)
    (entry : Option FieldDescriptor) (values1 values2 : List Value) :
    (compareRepeatedRep path message1 message2 entry values1 values2).1 = valuesEqual values1 values2 := by
  cases values1 with
  | nil => cases values2 <;> rfl
  | cons value1 rest1 =>
      cases values2 with
      | nil => rfl
      | cons value2 rest2 =>
          rw [compareRepeatedRep, valuesEqual]
          simp only
          rw [compare_field_value_result _ value1 value2, compare_repeated_result path message1 message2 entry rest1 rest2]
termination_by structural values1
end

theorem compare_unknown_reports (path : List (Option FieldDescriptor)) (message1 message2 : Message)
    (unknown1 unknown2 : List UnknownField) :
    ∀ sent ∈ (compareUnknownFields path message1 message2 unknown1 unknown2).2,
      sent.message2 = message2 ∧ sent.fieldPath = path ++ [none] := by
  induction unknown1 generalizing unknown2 with
  | nil =>
      intro sent member
      obtain ⟨_, _, same⟩ := List.mem_map.mp member
      exact same ▸ ⟨rfl, rfl⟩
  | cons head rest ih =>
      have own : ∀ kind sent, sent = report path message1 message2 kind none →
          sent.message2 = message2 ∧ sent.fieldPath = path ++ [none] := by
        intro kind sent same
        exact same ▸ ⟨rfl, rfl⟩
      have skipped : ∀ (others : List UnknownField), ∀ sent ∈ others.map (fun _ => report path message1 message2 .added none),
          sent.message2 = message2 ∧ sent.fieldPath = path ++ [none] := by
        intro others sent member
        obtain ⟨_, _, same⟩ := List.mem_map.mp member
        exact own _ sent same.symm
      intro sent member
      rw [compareUnknownFields] at member
      split at member
      · simp only [List.mem_append, List.mem_cons] at member
        rcases member with added | deleted | later
        · exact skipped _ sent added
        · exact own _ sent deleted
        · exact ih [] sent later
      · split at member
        · simp only [List.mem_append, List.mem_cons] at member
          rcases member with added | deleted | later
          · exact skipped _ sent added
          · exact own _ sent deleted
          · exact ih _ sent later
        · simp only [List.mem_append, reportUnless] at member
          rcases member with (added | modified) | later
          · exact skipped _ sent added
          · split at modified
            · cases modified
            · exact own _ sent (List.mem_singleton.mp modified)
          · exact ih _ sent later

def pairReports (path : List (Option FieldDescriptor)) (message1 message2 : Message) :
    Option Field × Option Field → List Report
  | (none, some field2) => reportField path message1 message2 .added field2
  | (some field1, none) => reportField path message1 message2 .deleted field1
  | (some field1, some field2) => (compareField path message1 message2 field1 field2).2
  | (none, none) => []

theorem compare_with_fields_reports (path : List (Option FieldDescriptor)) (message1 message2 : Message)
    (fields1 fields2 : List Field) :
    (compareWithFields path message1 message2 fields1 fields2).2 =
      (Align.align Field.number fields1 fields2).flatMap (pairReports path message1 message2) := by
  induction fields1 generalizing fields2 with
  | nil =>
      rw [compareWithFields, Align.align, List.flatMap_map]
      rfl
  | cons field1 rest1 ih =>
      rw [compareWithFields, Align.align, List.flatMap_append, List.flatMap_map]
      cases fields2.dropWhile fun field2 => field2.number < field1.number with
      | nil =>
          simp only [List.flatMap_cons, ih, List.append_assoc]
          rfl
      | cons field2 rest2 =>
          by_cases same : field1.number = field2.number
          · simp only [if_pos same, List.flatMap_cons, ih, List.append_assoc]
            rfl
          · simp only [if_neg same, List.flatMap_cons, ih, List.append_assoc]
            rfl

theorem report_field_own (path : List (Option FieldDescriptor)) (message1 message2 : Message) (kind : ReportKind)
    (field : Field) :
    ∀ sent ∈ reportField path message1 message2 kind field,
      sent = report path message1 message2 kind (some (descriptor message2 field)) := by
  intro sent member
  cases field with
  | singular number value => exact List.mem_singleton.mp member
  | repeated number values =>
      obtain ⟨_, _, same⟩ := List.mem_map.mp member
      exact same.symm

theorem report_unless_own (path : List (Option FieldDescriptor)) (message1 message2 : Message) (same : Bool)
    (entry : Option FieldDescriptor) :
    ∀ sent ∈ reportUnless path message1 message2 same entry, sent = report path message1 message2 .modified entry := by
  intro sent member
  cases same with
  | true => cases member
  | false => exact List.mem_singleton.mp member

theorem inner_drop_while (skip : Field → Bool) (fields : List Field) :
    fieldsInner (fields.dropWhile skip) ⊆ fieldsInner fields := by
  induction fields with
  | nil => exact fun inside member => member
  | cons head tail ih =>
      rw [List.dropWhile_cons]
      split
      · rw [fieldsInner]
        exact fun inside member => List.mem_append_right _ (ih member)
      · exact fun inside member => member

-- A report carries the message it was found in: the outer one, or one inside it.
mutual
theorem compare_reports_inner (path : List (Option FieldDescriptor)) (message1 message2 : Message) :
    ∀ sent ∈ (compare path message1 message2).2, sent.message2 = message2 ∨ sent.message2 ∈ message2.inner := by
  obtain ⟨fullName1, unknown1, fields1⟩ := message1
  obtain ⟨fullName2, unknown2, fields2⟩ := message2
  intro sent member
  rw [compare] at member
  split at member
  · cases member
  · simp only [List.mem_append] at member
    obtain unknown | listed := member
    · exact Or.inl (compare_unknown_reports _ _ _ _ _ sent unknown).1
    · exact compare_with_fields_inner path _ _ fields1 fields2 sent listed
termination_by structural message1
theorem compare_with_fields_inner (path : List (Option FieldDescriptor)) (message1 message2 : Message)
    (fields1 fields2 : List Field) :
    ∀ sent ∈ (compareWithFields path message1 message2 fields1 fields2).2,
      sent.message2 = message2 ∨ sent.message2 ∈ fieldsInner fields2 := by
  cases fields1 with
  | nil =>
      intro sent member
      rw [compareWithFields] at member
      obtain ⟨field, _, own⟩ := List.mem_flatMap.mp member
      exact Or.inl (report_field_own _ _ _ _ _ sent own ▸ rfl)
  | cons field1 rest1 =>
      intro sent member
      have shorter := inner_drop_while (fun field2 => field2.number < field1.number) fields2
      have skipped : ∀ kind (fields : List Field),
          sent ∈ fields.flatMap (reportField path message1 message2 kind) → sent.message2 = message2 := by
        intro kind fields added
        obtain ⟨field, _, own⟩ := List.mem_flatMap.mp added
        exact report_field_own _ _ _ _ _ sent own ▸ rfl
      have deletedOwn : sent ∈ reportField path message1 message2 .deleted field1 → sent.message2 = message2 :=
        fun own => report_field_own _ _ _ _ _ sent own ▸ rfl
      rw [compareWithFields] at member
      generalize fields2.dropWhile (fun field2 => field2.number < field1.number) = rest at member shorter
      cases rest with
      | nil =>
          simp only [List.mem_append] at member
          obtain (added | deleted) | later := member
          · exact Or.inl (skipped _ _ added)
          · exact Or.inl (deletedOwn deleted)
          · have inside := compare_with_fields_inner path message1 message2 rest1 [] sent later
            exact inside.imp_right fun held => shorter held
      | cons field2 rest2 =>
          rw [fieldsInner] at shorter
          by_cases same : field1.number = field2.number
          · simp only [if_pos same, List.mem_append] at member
            obtain (added | compared) | later := member
            · exact Or.inl (skipped _ _ added)
            · have inside := compare_field_inner path message1 message2 field1 field2 sent compared
              exact inside.imp_right fun held => shorter (List.mem_append_left _ held)
            · have inside := compare_with_fields_inner path message1 message2 rest1 rest2 sent later
              exact inside.imp_right fun held => shorter (List.mem_append_right _ held)
          · simp only [if_neg same, List.mem_append] at member
            obtain (added | deleted) | later := member
            · exact Or.inl (skipped _ _ added)
            · exact Or.inl (deletedOwn deleted)
            · have inside := compare_with_fields_inner path message1 message2 rest1 (field2 :: rest2) sent later
              exact inside.imp_right fun held => shorter held
termination_by structural fields1
theorem compare_field_inner (path : List (Option FieldDescriptor)) (message1 message2 : Message)
    (field1 field2 : Field) :
    ∀ sent ∈ (compareField path message1 message2 field1 field2).2,
      sent.message2 = message2 ∨ sent.message2 ∈ field2.inner := by
  intro sent member
  cases field1 with
  | singular number value1 =>
      cases field2 with
      | singular _ value2 =>
          simp only [compareField, List.mem_append] at member
          obtain nested | own := member
          · exact Or.inr (compare_field_value_inner _ value1 value2 sent nested)
          · exact Or.inl (report_unless_own _ _ _ _ _ sent own ▸ rfl)
      | repeated _ values2 =>
          simp only [compareField] at member
          exact Or.inl (report_unless_own _ _ _ _ _ sent member ▸ rfl)
  | repeated number values1 =>
      cases field2 with
      | singular _ value2 =>
          simp only [compareField] at member
          exact Or.inl (report_unless_own _ _ _ _ _ sent member ▸ rfl)
      | repeated _ values2 => exact compare_repeated_inner path message1 message2 _ values1 values2 sent member
termination_by structural field1
theorem compare_field_value_inner (path : List (Option FieldDescriptor)) (value1 value2 : Value) :
    ∀ sent ∈ (compareFieldValue path value1 value2).2, sent.message2 ∈ value2.inner := by
  cases value1 with
  | scalar scalar1 => cases value2 <;> simp [compareFieldValue]
  | message nested1 =>
      cases value2 with
      | scalar _ => simp [compareFieldValue]
      | message nested2 =>
          intro sent member
          rw [compareFieldValue] at member
          exact List.mem_cons.mpr (compare_reports_inner path nested1 nested2 sent member)
termination_by structural value1
theorem compare_repeated_inner (path : List (Option FieldDescriptor)) (message1 message2 : Message)
    (entry : Option FieldDescriptor) (values1 values2 : List Value) :
    ∀ sent ∈ (compareRepeatedRep path message1 message2 entry values1 values2).2,
      sent.message2 = message2 ∨ sent.message2 ∈ valuesInner values2 := by
  intro sent member
  have plain : ∀ kind (values : List Value),
      sent ∈ values.map (fun _ => report path message1 message2 kind entry) → sent.message2 = message2 := by
    intro kind values mapped
    obtain ⟨_, _, same⟩ := List.mem_map.mp mapped
    exact same ▸ rfl
  cases values1 with
  | nil => exact Or.inl (plain _ _ member)
  | cons value1 rest1 =>
      cases values2 with
      | nil => exact Or.inl (plain _ _ member)
      | cons value2 rest2 =>
          simp only [compareRepeatedRep, List.mem_append] at member
          rw [valuesInner]
          obtain (nested | own) | later := member
          · exact Or.inr (List.mem_append_left _ (compare_field_value_inner _ value1 value2 sent nested))
          · exact Or.inl (report_unless_own _ _ _ _ _ sent own ▸ rfl)
          · have inside := compare_repeated_inner path message1 message2 entry rest1 rest2 sent later
            exact inside.imp_right fun held => List.mem_append_right _ held
termination_by structural values1
end

theorem compare_field_value_inside (path : List (Option FieldDescriptor)) (value1 value2 : Value) :
    ∀ sent ∈ (compareFieldValue path value1 value2).2, sizeOf sent.message2 < sizeOf value2 :=
  fun sent member => size_of_value_inner value2 sent.message2 (compare_field_value_inner path value1 value2 sent member)

theorem nested_report_elsewhere (path : List (Option FieldDescriptor)) (value1 value2 : Value) (message2 : Message)
    (inside : sizeOf value2 < sizeOf message2) :
    ∀ sent ∈ (compareFieldValue path value1 value2).2, sent.message2 ≠ message2 := by
  intro sent member same
  have smaller := compare_field_value_inside path value1 value2 sent member
  rw [same] at smaller
  omega

end Protobuf
