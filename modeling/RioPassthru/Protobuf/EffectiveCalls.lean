import RioPassthru.Protobuf.DifferentialUpdateReporter

set_option autoImplicit false

namespace RioPassthru

open Protobuf

def Effective (fullName : String) (number : Nat) (call : UpdateCall) : Bool :=
  decide (call.message.fullName = fullName) && decide (call.field.number = number)

section Messages

variable {fullName : String} (reporter : DifferentialUpdateReporter) (prev m : Typed fullName)

theorem nested_report_untyped (sent : Report) (member : sent ∈ (Protobuf.compare [] prev.message m.message).2)
    (nested : 1 < sent.fieldPath.length) (call : UpdateCall) (received : call ∈ reporter.receive sent) :
    call.message.fullName ≠ fullName := by
  intro typed
  rw [((mem_receive reporter sent call).mp received).2.1] at typed
  obtain path | ⟨place, path⟩ := own_report_path prev m sent member (typed_report prev m sent member typed)
  · rw [path] at nested
    exact absurd nested (lt_irrefl 1)
  · rw [path] at nested
    exact absurd nested (lt_irrefl 1)

variable (number : Nat)

theorem effective_iff (call : UpdateCall) :
    Effective fullName number call = true ↔ call.message.fullName = fullName ∧ call.field.number = number := by
  rw [Effective, Bool.and_eq_true, decide_eq_true_eq, decide_eq_true_eq]

theorem no_effective_call (reports : List Report)
    (silent : ∀ sent ∈ reports, sent.message2.fullName = fullName → ∀ field, some field ∈ sent.fieldPath → field.number ≠ number) :
    (reports.flatMap reporter.receive).countP (Effective fullName number) = 0 := by
  rw [List.countP_eq_zero]
  intro call called
  obtain ⟨sent, member, received⟩ := List.mem_flatMap.mp called
  obtain ⟨_, carried, onPath, _⟩ := (mem_receive reporter sent call).mp received
  rw [effective_iff, carried]
  exact fun effective => silent sent member effective.1 call.field onPath effective.2

theorem one_effective_call (sent : Report) (heard : sent.kind ≠ .deleted) (own : sent.message2.fullName = fullName)
    (path : sent.fieldPath = [some ⟨fullName, number⟩]) (registered : reporter.registered ⟨fullName, number⟩ = true) :
    (reporter.receive sent).countP (Effective fullName number) = 1 := by
  have received : reporter.receive sent = [⟨⟨fullName, number⟩, sent.message2⟩] := by
    rw [DifferentialUpdateReporter.receive]
    cases kind : sent.kind with
    | deleted => exact absurd kind heard
    | added =>
        simp [DifferentialUpdateReporter.reportAdded, DifferentialUpdateReporter.reportModified, path, registered, Option.filter]
    | modified => simp [DifferentialUpdateReporter.reportModified, path, registered, Option.filter]
  rw [received, List.countP_singleton, if_pos ((effective_iff number _).mpr ⟨own, rfl⟩)]

theorem own_report_effective (kind : ReportKind) (heard : kind ≠ .deleted) (registered : reporter.registered ⟨fullName, number⟩ = true) :
    (reporter.receive (report [] prev.message m.message kind (some ⟨m.message.fullName, number⟩))).countP
      (Effective fullName number) = 1 :=
  one_effective_call reporter number _ heard m.typed (congrArg (fun name => [some (⟨name, number⟩ : FieldDescriptor)]) m.typed)
    registered

theorem own_pair_effective (prevField : Option Field) (value : Value)
    (found : m.message.field number = some (.singular number value))
    (first : ∀ field1, prevField = some field1 → field1.number = number)
    (differs : Differs prevField (some (.singular number value)))
    (reported : ∀ sent ∈ pairReports [] prev.message m.message (prevField, some (.singular number value)),
      sent ∈ (Protobuf.compare [] prev.message m.message).2)
    (registered : reporter.registered ⟨fullName, number⟩ = true) :
    ((pairReports [] prev.message m.message (prevField, some (.singular number value))).flatMap reporter.receive).countP
      (Effective fullName number) = 1 := by
  cases prevField with
  | none =>
      rw [pairReports, reportField, List.flatMap_singleton]
      exact own_report_effective reporter prev m number .added (by decide) registered
  | some field1 =>
      have place := first field1 rfl
      cases field1 with
      | repeated other values1 =>
          have reports : pairReports [] prev.message m.message (some (.repeated other values1), some (.singular number value)) =
              [report [] prev.message m.message .modified (some ⟨m.message.fullName, number⟩)] := by
            simp [pairReports, compareField, reportUnless, descriptor, place]
          rw [reports, List.flatMap_singleton]
          exact own_report_effective reporter prev m number .modified (by decide) registered
      | singular other value1 =>
          have same : other = number := place
          have unequal : value1.equals value = false := differs
          have smaller := size_of_field m.message number _ found
          rw [Field.singular.sizeOf_spec] at smaller
          rw [pairReports, compareField] at reported ⊢
          dsimp only at reported ⊢
          rw [compare_field_value_result, unequal, reportUnless, if_neg Bool.false_ne_true, same] at reported ⊢
          have nested : ((compareFieldValue ([] ++ [some ⟨m.message.fullName, number⟩]) value1 value).2.flatMap
              reporter.receive).countP (Effective fullName number) = 0 := by
            refine no_effective_call reporter number _ ?_
            intro sent member typed
            have same := typed_report prev m sent (reported sent (List.mem_append_left _ member)) typed
            exact absurd same (nested_report_elsewhere _ value1 value m.message (by omega) sent member)
          rw [List.flatMap_append, List.countP_append, nested, Nat.zero_add, List.flatMap_singleton]
          exact own_report_effective reporter prev m number .modified (by decide) registered

theorem pair_effective (pair : Option Field × Option Field)
    (held : pair ∈ Align.align Field.number prev.message.fields m.message.fields) (value : Value)
    (found : m.message.field number = some (.singular number value))
    (differs : Differs (prev.message.field number) (m.message.field number))
    (registered : reporter.registered ⟨fullName, number⟩ = true) :
    ((pairReports [] prev.message m.message pair).flatMap reporter.receive).countP (Effective fullName number) =
      pair.2.elim 0 fun field2 => if field2.number = number then 1 else 0 := by
  have reported : ∀ sent ∈ pairReports [] prev.message m.message pair, sent ∈ (Protobuf.compare [] prev.message m.message).2 := by
    intro sent member
    rw [compare_typed]
    exact List.mem_append_right _ (List.mem_flatMap.mpr ⟨pair, held, member⟩)
  obtain ⟨place, same, _⟩ := (Align.mem_align_iff Field.number prev.message.fields m.message.fields
    (well_formed_ascending prev.message prev.wellFormed) (well_formed_ascending m.message m.wellFormed) pair).mp held
  obtain ⟨first, second⟩ := pair_of_number prev m place
  by_cases here : place = number
  · subst here
    have whole : pair = (prev.message.field place, some (.singular place value)) := by
      rw [same, ← found]
      rfl
    rw [found] at differs
    rw [whole] at reported ⊢
    rw [own_pair_effective reporter prev m place _ value found first differs reported registered]
    simp [Field.number]
  · have silent : ((pairReports [] prev.message m.message pair).flatMap reporter.receive).countP (Effective fullName number) = 0 := by
      refine no_effective_call reporter number _ ?_
      intro sent member typed field onPath
      have own := typed_report prev m sent (reported sent member) typed
      rw [same] at member
      rw [pair_own_path [] prev.message m.message _ place first second sent member own] at onPath
      simp only [List.nil_append, List.mem_singleton, Option.some.injEq] at onPath
      rw [onPath]
      exact here
    rw [silent, same]
    cases held2 : Align.lookup Field.number place m.message.fields with
    | none => rfl
    | some field2 => exact (if_neg ((second field2 held2).1 ▸ here)).symm

theorem count_over_right (pairs : List (Option Field × Option Field)) :
    (pairs.map fun pair => pair.2.elim 0 fun field2 => if field2.number = number then 1 else 0).sum =
      (pairs.filterMap Prod.snd).countP fun field2 => field2.number = number := by
  induction pairs with
  | nil => rfl
  | cons pair rest ih =>
      obtain ⟨field1, field2⟩ := pair
      cases field2 with
      | none => simpa using ih
      | some field2 => simp [List.countP_cons, ih, Nat.add_comm]

theorem called_once (value : Value) (found : m.message.field number = some (.singular number value))
    (differs : Differs (prev.message.field number) (m.message.field number))
    (registered : reporter.registered ⟨fullName, number⟩ = true) :
    (reporter.compareWith prev.message m.message).countP (Effective fullName number) = 1 := by
  have unknown : ((compareUnknownFields [] prev.message m.message (tagOrder prev.message.unknownFields)
      (tagOrder m.message.unknownFields)).2.flatMap reporter.receive).countP (Effective fullName number) = 0 := by
    refine no_effective_call reporter number _ ?_
    intro sent member _ field onPath
    rw [(compare_unknown_reports _ _ _ _ _ sent member).2] at onPath
    simp at onPath
  have pairs : ((Align.align Field.number prev.message.fields m.message.fields).map fun pair =>
      ((pairReports [] prev.message m.message pair).flatMap reporter.receive).countP (Effective fullName number)) =
      (Align.align Field.number prev.message.fields m.message.fields).map fun pair =>
        pair.2.elim 0 fun field2 => if field2.number = number then 1 else 0 :=
    List.map_congr_left fun pair held => pair_effective reporter prev m number pair held value found differs registered
  rw [DifferentialUpdateReporter.compareWith, compare_typed, List.flatMap_append, List.countP_append, unknown, Nat.zero_add,
    List.flatMap_assoc, List.countP_flatMap]
  calc ((Align.align Field.number prev.message.fields m.message.fields).map fun pair =>
        ((pairReports [] prev.message m.message pair).flatMap reporter.receive).countP (Effective fullName number)).sum
      = m.message.fields.countP fun field2 => field2.number = number := by
        rw [pairs, count_over_right, Align.align_right]
    _ = 1 := Align.count_of_lookup Field.number number _ (well_formed_ascending m.message m.wellFormed) _ found

theorem split_at_effective (value : Value) (found : m.message.field number = some (.singular number value))
    (differs : Differs (prev.message.field number) (m.message.field number))
    (registered : reporter.registered ⟨fullName, number⟩ = true) :
    ∃ before call after, reporter.compareWith prev.message m.message = before ++ call :: after ∧
      Effective fullName number call = true ∧ ∀ other ∈ before ++ after, Effective fullName number other = false := by
  have once := called_once reporter prev m number value found differs registered
  obtain ⟨call, called, effective⟩ := List.countP_pos_iff.mp (once ▸ Nat.one_pos)
  obtain ⟨before, after, split⟩ := List.append_of_mem called
  refine ⟨before, call, after, split, effective, ?_⟩
  have others : (before ++ after).countP (Effective fullName number) = 0 := by
    rw [split, List.countP_append, List.countP_cons_of_pos effective] at once
    rw [List.countP_append]
    omega
  intro other member
  exact Bool.eq_false_iff.mpr (List.countP_eq_zero.mp others other member)

end Messages

end RioPassthru
