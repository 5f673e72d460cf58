import RioPassthru.Lib.Align
import RioPassthru.Lib.Double

set_option autoImplicit false

namespace Protobuf

-- int stands for the integer and enum types, whose values compare as numbers.
inductive Scalar where
  | int (value : Int)
  | bool (value : Bool)
  | double (value : Double)
  | text (value : String)
deriving DecidableEq, Repr

-- type is the order of UnknownField::Type; proto3 has no groups.
structure UnknownField where
  number : Nat
  type : Nat
  payload : List UInt8
deriving DecidableEq, Repr

-- A message as reflection sees it: fields is the outcome of ListFields.
mutual
inductive Message where
  | mk (fullName : String) (unknownFields : List UnknownField) (fields : List Field)
inductive Field where
  | singular (number : Nat) (value : Value)
  | repeated (number : Nat) (values : List Value)
inductive Value where
  | scalar (value : Scalar)
  | message (value : Message)
end

def Message.fullName : Message → String
  | .mk fullName _ _ => fullName

def Message.unknownFields : Message → List UnknownField
  | .mk _ unknownFields _ => unknownFields

def Message.fields : Message → List Field
  | .mk _ _ fields => fields

def Field.number : Field → Nat
  | .singular number _ => number
  | .repeated number _ => number

def Message.field (message : Message) (number : Nat) : Option Field :=
  Align.lookup Field.number number message.fields

-- Doubles compare with ==, everything else by its value.
def Scalar.equals : Scalar → Scalar → Bool
  | .double left, .double right => left.eq right
  | left, right => decide (left = right)

def Scalar.isDefault : Scalar → Bool
  | .int value => value == 0
  | .bool value => !value
  | .double value => value == 0
  | .text value => value == ""

-- Unknown fields compare in tag order, values of one tag in the order they came.
def UnknownField.before (left right : UnknownField) : Prop :=
  left.number < right.number ∨ left.number = right.number ∧ left.type < right.type

instance (left right : UnknownField) : Decidable (left.before right) := inferInstanceAs (Decidable (_ ∨ _))

def tagOrder (unknown : List UnknownField) : List UnknownField :=
  unknown.insertionSort fun left right => ¬ right.before left

mutual
def Message.equals : Message → Message → Bool
  | .mk fullName1 unknown1 fields1, .mk fullName2 unknown2 fields2 =>
      decide (fullName1 = fullName2) && decide (tagOrder unknown1 = tagOrder unknown2) && fieldsEqual fields1 fields2
termination_by structural message => message
def fieldsEqual : List Field → List Field → Bool
  | [], [] => true
  | field1 :: rest1, field2 :: rest2 =>
      decide (field1.number = field2.number) && Field.equals field1 field2 && fieldsEqual rest1 rest2
  | _, _ => false
termination_by structural fields => fields
def Field.equals : Field → Field → Bool
  | .singular _ value1, .singular _ value2 => Value.equals value1 value2
  | .repeated _ values1, .repeated _ values2 => valuesEqual values1 values2
  | _, _ => false
termination_by structural field => field
def Value.equals : Value → Value → Bool
  | .scalar scalar1, .scalar scalar2 => scalar1.equals scalar2
  | .message message1, .message message2 => Message.equals message1 message2
  | _, _ => false
termination_by structural value => value
def valuesEqual : List Value → List Value → Bool
  | [], [] => true
  | value1 :: rest1, value2 :: rest2 => Value.equals value1 value2 && valuesEqual rest1 rest2
  | _, _ => false
termination_by structural values => values
end

-- == is not reflexive on NaN, so a message with one in it differs from itself.
def Scalar.hasNaN : Scalar → Bool
  | .double value => value.isNaN
  | _ => false

mutual
def Message.hasNaN : Message → Bool
  | .mk _ _ fields => fieldsHaveNaN fields
termination_by structural message => message
def fieldsHaveNaN : List Field → Bool
  | [] => false
  | field :: rest => Field.hasNaN field || fieldsHaveNaN rest
termination_by structural fields => fields
def Field.hasNaN : Field → Bool
  | .singular _ value => Value.hasNaN value
  | .repeated _ values => valuesHaveNaN values
termination_by structural field => field
def Value.hasNaN : Value → Bool
  | .scalar scalar => scalar.hasNaN
  | .message message => Message.hasNaN message
termination_by structural value => value
def valuesHaveNaN : List Value → Bool
  | [] => false
  | value :: rest => Value.hasNaN value || valuesHaveNaN rest
termination_by structural values => values
end

theorem fields_have_nan (fields : List Field) : fieldsHaveNaN fields = fields.any Field.hasNaN := by
  induction fields with
  | nil => rfl
  | cons field rest ih => rw [fieldsHaveNaN, List.any_cons, ih]

theorem scalar_equals_self (scalar : Scalar) : scalar.equals scalar = !scalar.hasNaN := by
  cases scalar with
  | double value =>
      rw [Scalar.equals, Scalar.hasNaN, Double.eq_self]
  | _ => simp [Scalar.equals, Scalar.hasNaN]

mutual
theorem message_equals_self : (message : Message) → message.equals message = !message.hasNaN
  | .mk fullName unknown fields => by
      rw [Message.equals, Message.hasNaN, fields_equal_self fields]
      simp
termination_by structural message => message
theorem fields_equal_self : (fields : List Field) → fieldsEqual fields fields = !fieldsHaveNaN fields
  | [] => rfl
  | field :: rest => by
      rw [fieldsEqual, fieldsHaveNaN, field_equals_self field, fields_equal_self rest]
      simp
termination_by structural fields => fields
theorem field_equals_self : (field : Field) → field.equals field = !field.hasNaN
  | .singular _ value => value_equals_self value
  | .repeated _ values => values_equal_self values
termination_by structural field => field
theorem value_equals_self : (value : Value) → value.equals value = !value.hasNaN
  | .scalar scalar => scalar_equals_self scalar
  | .message message => message_equals_self message
termination_by structural value => value
theorem values_equal_self : (values : List Value) → valuesEqual values values = !valuesHaveNaN values
  | [] => rfl
  | value :: rest => by
      rw [valuesEqual, valuesHaveNaN, value_equals_self value, values_equal_self rest, Bool.not_or]
termination_by structural values => values
end

-- proto3 lists a singular scalar iff it is not the default, a repeated field iff it has
-- an element, and a sub-message iff it is set.
def Field.listed : Field → Bool
  | .singular _ (.scalar scalar) => !scalar.isDefault
  | .singular _ (.message _) => true
  | .repeated _ values => !values.isEmpty

mutual
def Message.wellFormed : Message → Bool
  | .mk _ _ fields => decide (Align.Ascending Field.number fields) && fieldsWellFormed fields
termination_by structural message => message
def fieldsWellFormed : List Field → Bool
  | [] => true
  | field :: rest => field.listed && Field.wellFormed field && fieldsWellFormed rest
termination_by structural fields => fields
def Field.wellFormed : Field → Bool
  | .singular _ value => Value.wellFormed value
  | .repeated _ values => valuesWellFormed values
termination_by structural field => field
def Value.wellFormed : Value → Bool
  | .scalar _ => true
  | .message message => Message.wellFormed message
termination_by structural value => value
def valuesWellFormed : List Value → Bool
  | [] => true
  | value :: rest => Value.wellFormed value && valuesWellFormed rest
termination_by structural values => values
end

mutual
def Message.inner : Message → List Message
  | .mk _ _ fields => fieldsInner fields
termination_by structural message => message
def fieldsInner : List Field → List Message
  | [] => []
  | field :: rest => Field.inner field ++ fieldsInner rest
termination_by structural fields => fields
def Field.inner : Field → List Message
  | .singular _ value => Value.inner value
  | .repeated _ values => valuesInner values
termination_by structural field => field
def Value.inner : Value → List Message
  | .scalar _ => []
  | .message message => message :: Message.inner message
termination_by structural value => value
def valuesInner : List Value → List Message
  | [] => []
  | value :: rest => Value.inner value ++ valuesInner rest
termination_by structural values => values
end

-- None of the types the code reads by a descriptor contains itself.
structure Typed (fullName : String) where
  message : Message
  typed : message.fullName = fullName
  wellFormed : message.wellFormed = true
  apart : ∀ inside ∈ message.inner, inside.fullName ≠ fullName

def scalarOf : Option Field → Option Scalar
  | some (.singular _ (.scalar scalar)) => some scalar
  | _ => none

def nestedOf : Option Field → Message
  | some (.singular _ (.message nested)) => nested
  | _ => .mk "" [] []

def Message.scalar (message : Message) (number : Nat) : Option Scalar := scalarOf (message.field number)

def Message.nested (message : Message) (number : Nat) : Message := nestedOf (message.field number)

def messagesOf : Option Field → List Message
  | some (.repeated _ values) =>
      values.filterMap fun
        | .message nested => some nested
        | .scalar _ => none
  | _ => []

def Message.repeatedMessages (message : Message) (number : Nat) : List Message := messagesOf (message.field number)

def toInt : Option Scalar → Int
  | some (.int value) => value
  | _ => 0

theorem int_of_positive (scalar : Option Scalar) (positive : 0 < toInt scalar) : scalar = some (.int (toInt scalar)) := by
  cases scalar with
  | none => cases positive
  | some scalar => cases scalar <;> first | rfl | cases positive

def toDouble : Option Scalar → Double
  | some (.int value) => .finite value
  | some (.double value) => value
  | _ => 0

mutual
theorem size_of_inner (message : Message) : ∀ inside ∈ message.inner, sizeOf inside < sizeOf message := by
  obtain ⟨fullName, unknown, fields⟩ := message
  intro inside member
  have smaller := size_of_fields_inner fields inside member
  simp only [Message.mk.sizeOf_spec]
  omega
termination_by structural message
theorem size_of_fields_inner (fields : List Field) : ∀ inside ∈ fieldsInner fields, sizeOf inside < sizeOf fields := by
  cases fields with
  | nil => exact fun inside member => nomatch member
  | cons field rest =>
      intro inside member
      rw [fieldsInner, List.mem_append] at member
      rw [List.cons.sizeOf_spec]
      obtain here | later := member
      · have smaller := size_of_field_inner field inside here
        omega
      · have smaller := size_of_fields_inner rest inside later
        omega
termination_by structural fields
theorem size_of_field_inner (field : Field) : ∀ inside ∈ field.inner, sizeOf inside < sizeOf field := by
  cases field with
  | singular number value =>
      intro inside member
      have smaller := size_of_value_inner value inside member
      simp only [Field.singular.sizeOf_spec]
      omega
  | repeated number values =>
      intro inside member
      have smaller := size_of_values_inner values inside member
      simp only [Field.repeated.sizeOf_spec]
      omega
termination_by structural field
theorem size_of_value_inner (value : Value) : ∀ inside ∈ value.inner, sizeOf inside < sizeOf value := by
  cases value with
  | scalar scalar => exact fun inside member => nomatch member
  | message nested =>
      intro inside member
      rw [Value.inner, List.mem_cons] at member
      simp only [Value.message.sizeOf_spec]
      obtain same | deeper := member
      · rw [same]
        omega
      · have smaller := size_of_inner nested inside deeper
        omega
termination_by structural value
theorem size_of_values_inner (values : List Value) : ∀ inside ∈ valuesInner values, sizeOf inside < sizeOf values := by
  cases values with
  | nil => exact fun inside member => nomatch member
  | cons value rest =>
      intro inside member
      rw [valuesInner, List.mem_append] at member
      rw [List.cons.sizeOf_spec]
      obtain here | later := member
      · have smaller := size_of_value_inner value inside here
        omega
      · have smaller := size_of_values_inner rest inside later
        omega
termination_by structural values
end

theorem fields_well_formed_iff (fields : List Field) :
    fieldsWellFormed fields = true ↔ ∀ field ∈ fields, field.listed = true ∧ field.wellFormed = true := by
  induction fields with
  | nil => simp [fieldsWellFormed]
  | cons head rest ih =>
      rw [fieldsWellFormed, Bool.and_eq_true, Bool.and_eq_true, ih, List.forall_mem_cons]

theorem well_formed_ascending (message : Message) (valid : message.wellFormed = true) :
    Align.Ascending Field.number message.fields := by
  obtain ⟨fullName, unknown, fields⟩ := message
  rw [Message.wellFormed, Bool.and_eq_true, decide_eq_true_eq] at valid
  exact valid.1

theorem well_formed_field (message : Message) (valid : message.wellFormed = true) (number : Nat) (field : Field)
    (found : message.field number = some field) : field.listed = true ∧ field.wellFormed = true := by
  obtain ⟨fullName, unknown, fields⟩ := message
  rw [Message.wellFormed, Bool.and_eq_true] at valid
  exact (fields_well_formed_iff fields).mp valid.2 field (List.mem_of_find?_eq_some found)

end Protobuf
