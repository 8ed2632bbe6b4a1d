import ClassLowering.Proofs.Accessors.Checking
import ClassLowering.Proofs.Run.Reading

/-!
# Descriptors from records

A record is converted to a descriptor in two steps: its fields are read, and what was read is tested. It is
refused if an accessor function cannot be called, or if it describes a value and an accessor at once.
-/

namespace ClassLowering

/-- A descriptor of a value and of an accessor at once. -/
def Descriptor.mixed (descriptor : Descriptor) : Bool := descriptor.isAccessor && descriptor.isData

namespace Run

variable {engine : Engine} {state after : State} {record : ObjectId} {descriptor : Descriptor}
  {failure : Failure}

/-- The fields of a record, untested. -/
def descriptorFields (record : ObjectId) : Run Descriptor := do
  let enumerable := (← field? record "enumerable").map Value.isTruthy
  let configurable := (← field? record "configurable").map Value.isTruthy
  let value ← field? record "value"
  let writable := (← field? record "writable").map Value.isTruthy
  let get ← field? record "get"
  let set ← field? record "set"
  return { value, writable, get, set, enumerable, configurable }

/-- The tests of a descriptor that was read. -/
def checkDescriptor (descriptor : Descriptor) : Run Descriptor := do
  checkAccessor descriptor.get
  checkAccessor descriptor.set
  if descriptor.mixed then raise .mixedDescriptor else return descriptor

theorem descriptorOf_eq (record : ObjectId) :
    descriptorOf record = descriptorFields record >>= checkDescriptor := by
  simp only [descriptorOf, descriptorFields, bind_assoc, pure_bind]
  rfl

theorem checkAccessor_eq (accessor : Option Value) :
    checkAccessor accessor engine state =
      if state.heap.calls (Value.defined? accessor) then .done () state
      else .failed (.fault .accessorNotCallable) state := by
  by_cases calls : state.heap.calls (Value.defined? accessor) = true
  · exact (checkAccessor_apply (Heap.calls_iff.mp calls)).trans (if_pos calls).symm
  · exact (checkAccessor_refused (mt Heap.calls_iff.mpr calls)).trans (if_neg calls).symm

theorem checkDescriptor_eq (descriptor : Descriptor) :
    checkDescriptor descriptor engine state =
      if state.heap.grants descriptor then
        if descriptor.mixed then .failed (.fault .mixedDescriptor) state else .done descriptor state
      else .failed (.fault .accessorNotCallable) state := by
  rw [checkDescriptor, bind_apply, checkAccessor_eq, Heap.grants]
  cases state.heap.calls (Value.defined? descriptor.get) with
  | false => rfl
  | true =>
      simp only [if_true, Bool.true_and, bind_apply, checkAccessor_eq]
      cases state.heap.calls (Value.defined? descriptor.set) with
      | false => rfl
      | true =>
          cases descriptor.mixed <;> rfl

/-- A record converts to a descriptor. -/
inductive RecordRead (engine : Engine) (state : State) (record : ObjectId) : Descriptor → State → Prop
  | converted {descriptor : Descriptor} {after : State}
      (read : descriptorFields record engine state = .done descriptor after)
      (callable : after.heap.grants descriptor = true) (pure : descriptor.mixed = false) :
      RecordRead engine state record descriptor after

/-- A record does not convert to a descriptor. -/
inductive RecordUnread (engine : Engine) (state : State) (record : ObjectId) : Failure → State → Prop
  | field {failure : Failure} {after : State}
      (failed : descriptorFields record engine state = .failed failure after) :
      RecordUnread engine state record failure after
  | uncallable {descriptor : Descriptor} {after : State}
      (read : descriptorFields record engine state = .done descriptor after)
      (uncallable : after.heap.grants descriptor = false) :
      RecordUnread engine state record (.fault .accessorNotCallable) after
  | mixed {descriptor : Descriptor} {after : State}
      (read : descriptorFields record engine state = .done descriptor after)
      (callable : after.heap.grants descriptor = true) (mixed : descriptor.mixed = true) :
      RecordUnread engine state record (.fault .mixedDescriptor) after

theorem descriptorOf_eq_done_iff :
    descriptorOf record engine state = .done descriptor after ↔
      RecordRead engine state record descriptor after := by
  rw [descriptorOf_eq]
  constructor
  · intro ran
    obtain ⟨found, middle, read, tested⟩ := done_of_bind ran
    rw [checkDescriptor_eq] at tested
    split at tested
    · next callable =>
      split at tested
      · cases tested
      · next pure =>
        cases tested
        exact .converted read callable (Bool.eq_false_iff.mpr pure)
    · cases tested
  · rintro ⟨read, callable, pure⟩
    rw [bind_of_done read, checkDescriptor_eq, callable, pure]
    rfl

theorem descriptorOf_eq_failed_iff :
    descriptorOf record engine state = .failed failure after ↔
      RecordUnread engine state record failure after := by
  rw [descriptorOf_eq]
  constructor
  · intro ran
    rcases failed_of_bind ran with failed | ⟨found, middle, read, tested⟩
    · exact .field failed
    · rw [checkDescriptor_eq] at tested
      split at tested
      · next callable =>
        split at tested
        · next mixed =>
          cases tested
          exact .mixed read callable mixed
        · cases tested
      · next uncallable =>
        cases tested
        exact .uncallable read (Bool.eq_false_iff.mpr uncallable)
  · intro unread
    cases unread with
    | field failed => exact bind_of_failed failed
    | uncallable read uncallable =>
        rw [bind_of_done read, checkDescriptor_eq, uncallable]
        rfl
    | mixed read callable mixed =>
        rw [bind_of_done read, checkDescriptor_eq, callable, mixed]
        rfl

end Run

end ClassLowering
