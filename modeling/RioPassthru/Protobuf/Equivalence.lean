import RioPassthru.Protobuf.Message

set_option autoImplicit false

namespace Protobuf

-- MessageDifferencer::Equivalent compares the fields that either side lists, reads the
-- default of a field the other side lists only, and leaves the unknown fields out.
def Scalar.equalsDefault : Scalar → Bool
  | .double value => value.eq 0
  | scalar => scalar.isDefault

mutual
def Message.equalsDefault : Message → Bool
  | .mk _ _ fields => fieldsEqualDefault fields
termination_by structural message => message
def fieldsEqualDefault : List Field → Bool
  | [] => true
  | field :: rest => Field.equalsDefault field && fieldsEqualDefault rest
termination_by structural fields => fields
def Field.equalsDefault : Field → Bool
  | .singular _ value => Value.equalsDefault value
  | .repeated _ values => values.isEmpty
termination_by structural field => field
def Value.equalsDefault : Value → Bool
  | .scalar scalar => scalar.equalsDefault
  | .message message => Message.equalsDefault message
termination_by structural value => value
end

mutual
def Message.equivalent : Message → Message → Bool
  | .mk fullName1 _ fields1, .mk fullName2 _ fields2 =>
      decide (fullName1 = fullName2) && fieldsEquivalent fields1 fields2
termination_by structural message => message
def fieldsEquivalent : List Field → List Field → Bool
  | [], fields2 => fieldsEqualDefault fields2
  | field1 :: rest1, fields2 =>
      fieldsEqualDefault (fields2.takeWhile fun field2 => field2.number < field1.number) &&
        match fields2.dropWhile fun field2 => field2.number < field1.number with
        | [] => field1.equalsDefault && fieldsEquivalent rest1 []
        | field2 :: rest2 =>
            if field1.number = field2.number then Field.equivalent field1 field2 && fieldsEquivalent rest1 rest2
            else field1.equalsDefault && fieldsEquivalent rest1 (field2 :: rest2)
termination_by structural fields => fields
def Field.equivalent : Field → Field → Bool
  | .singular _ value1, .singular _ value2 => Value.equivalent value1 value2
  | .repeated _ values1, .repeated _ values2 => valuesEquivalent values1 values2
  | _, _ => false
termination_by structural field => field
def Value.equivalent : Value → Value → Bool
  | .scalar scalar1, .scalar scalar2 => scalar1.equals scalar2
  | .message message1, .message message2 => Message.equivalent message1 message2
  | _, _ => false
termination_by structural value => value
def valuesEquivalent : List Value → List Value → Bool
  | [], [] => true
  | value1 :: rest1, value2 :: rest2 => Value.equivalent value1 value2 && valuesEquivalent rest1 rest2
  | _, _ => false
termination_by structural values => values
end

end Protobuf
