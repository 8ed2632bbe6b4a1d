import ClassLowering.Engine
import ClassLowering.Proofs.Soundness.Bounded

/-!
# Code and objects without dangling names

The literals of a script name objects too, and functions carry scripts into the heap. Steps are
followed into the blocks and the functions that they hold.
-/

namespace ClassLowering

namespace Script

/-- The operations that write to an object without asking it. They belong to a host that is building
the object, and no script-visible operation does the same. -/
@[simp]
def Operation.isRaw : Operation → Bool
  | .onProperty (.defineRaw ..) | .onProperty .rawSet | .onProperty .remove => true
  | .create (.defineGlobal _) | .create (.installHelpers _) => true
  | _ => false

/-- What the law says of an operation. -/
@[simp]
def Operation.Permitted (law : Law) (operation : Operation) : Prop :=
  (operation.isRaw = true → law.writes = true) ∧
    (operation = .onProperty .remove → law.removes = true)

instance : Bounded Operand where
  Within law size operand :=
    match operand with
    | .value value => Within law size value
    | _ => True
  mono {_ _ _ operand} within le := by
    cases operand with
    | value value => exact Bounded.mono (α := Value) within le
    | _ => trivial

instance : Bounded DescriptorOperands where
  Within law size descriptor :=
    Within law size descriptor.value ∧ Within law size descriptor.get ∧
      Within law size descriptor.set
  mono within le := ⟨within.1.mono le, within.2.1.mono le, within.2.2.mono le⟩

instance : Bounded MemberOperands where
  Within law size member :=
    Within law size member.key ∧ Within law size member.value ∧ Within law size member.get ∧
      Within law size member.set
  mono within le :=
    ⟨within.1.mono le, within.2.1.mono le, within.2.2.1.mono le, within.2.2.2.mono le⟩

/-- The operands that stand in an operation itself. -/
@[simp]
def Operation.OperandsWithin (law : Law) (size : Nat) : Operation → Prop
  | .onProperty (.define descriptor) | .onProperty (.descriptorTo descriptor) =>
      Within law size descriptor
  | .onClass (.install members) => Within law size members
  | .onClass (.createClass members statics) => Within law size members ∧ Within law size statics
  | _ => True

theorem Operation.OperandsWithin.mono {law : Law} {size larger : Nat} {operation : Operation}
    (within : operation.OperandsWithin law size) (le : size ≤ larger) :
    operation.OperandsWithin law larger := by
  unfold OperandsWithin at within ⊢
  split at within
  · exact within.mono le
  · exact within.mono le
  · exact within.mono le
  · exact ⟨within.1.mono le, within.2.mono le⟩
  · trivial

instance : Bounded Operation where
  Within law size operation :=
    operation.Permitted law ∧ operation.OperandsWithin law size
  mono within le := ⟨within.1, within.2.mono le⟩

section Literals

variable {law : Law} {size : Nat}

/-- Operands name objects in their literals only. -/
@[simp]
theorem within_operand {operand : Operand} :
    Within law size operand ↔ ∀ value, operand = .value value → Within law size value := by
  cases operand with
  | value value => exact ⟨fun within _ same => Operand.value.inj same ▸ within, fun within => within value rfl⟩
  | _ => exact ⟨fun _ _ => nofun, fun _ => trivial⟩

@[simp]
theorem within_descriptorOperands {descriptor : DescriptorOperands} :
    Within law size descriptor ↔
      Within law size descriptor.value ∧ Within law size descriptor.get ∧
        Within law size descriptor.set := .rfl

@[simp]
theorem within_operation {operation : Operation} :
    Within law size operation ↔
      operation.Permitted law ∧ operation.OperandsWithin law size := .rfl

end Literals

mutual

/-- The literals of a step name objects among the first `size`, and its operations keep to the law. -/
@[simp]
def Step.Lawful (law : Law) (size : Nat) : Step → Prop
  | .perform operation operands _ => Within law size operation ∧ Within law size operands
  | .makeFunction _ body captured _ => LawfulSteps law size body ∧ Within law size captured
  | .leave operands _ => Within law size operands
  | .choose operands whenTrue whenFalse _ =>
      Within law size operands ∧ LawfulSteps law size whenTrue ∧ LawfulSteps law size whenFalse
  | .loop _ body _ => LawfulSteps law size body

/-- Steps of which each is lawful. -/
@[simp]
def LawfulSteps (law : Law) (size : Nat) : List Step → Prop
  | [] => True
  | step :: rest => step.Lawful law size ∧ LawfulSteps law size rest

end

mutual

theorem Step.Lawful.mono {law : Law} {size larger : Nat} (le : size ≤ larger) :
    (step : Step) → step.Lawful law size → step.Lawful law larger
  | .perform .., lawful => by
      unfold Step.Lawful at lawful ⊢
      exact ⟨lawful.1.mono le, lawful.2.mono le⟩
  | .makeFunction _ body _ _, lawful => by
      unfold Step.Lawful at lawful ⊢
      exact ⟨LawfulSteps.mono le body lawful.1, lawful.2.mono le⟩
  | .leave .., lawful => by
      unfold Step.Lawful at lawful ⊢
      exact lawful.mono le
  | .choose _ whenTrue whenFalse _, lawful => by
      unfold Step.Lawful at lawful ⊢
      exact ⟨lawful.1.mono le, LawfulSteps.mono le whenTrue lawful.2.1,
        LawfulSteps.mono le whenFalse lawful.2.2⟩
  | .loop _ body _, lawful => by
      unfold Step.Lawful at lawful ⊢
      exact LawfulSteps.mono le body lawful

theorem LawfulSteps.mono {law : Law} {size larger : Nat} (le : size ≤ larger) :
    (steps : List Step) → LawfulSteps law size steps → LawfulSteps law larger steps
  | [], _ => by
      unfold LawfulSteps
      trivial
  | step :: rest, lawful => by
      unfold LawfulSteps at lawful ⊢
      exact ⟨Step.Lawful.mono le step lawful.1, LawfulSteps.mono le rest lawful.2⟩

end

instance : Bounded Step := ⟨Step.Lawful, fun within le => Step.Lawful.mono le _ within⟩

@[simp]
theorem within_step {law : Law} {size : Nat} {step : Step} :
    Within law size step ↔ step.Lawful law size := .rfl

instance : Bounded Reply where
  Within law size reply :=
    match reply with
    | .value value => Within law size value
    | .report _ => True
  mono {_ _ _ reply} within le := by
    cases reply with
    | value value => exact Bounded.mono (α := Value) within le
    | report _ => trivial

instance : Bounded Progress where
  Within law size progress :=
    match progress with
    | .next reply => Within law size reply
    | .left value => Within law size value
  mono {_ _ _ progress} within le := by
    cases progress with
    | next reply => exact Bounded.mono (α := Reply) within le
    | left value => exact Bounded.mono (α := Value) within le

end Script

instance : Bounded Code where
  Within law size code :=
    match code with
    | .builtin _ => True
    | .script body _ => Script.LawfulSteps law size body
  mono {_ _ _ code} within le := by
    cases code with
    | builtin _ => trivial
    | script body _ => exact Script.LawfulSteps.mono le body within

@[simp]
theorem Code.within_script {law : Law} {size : Nat} {body : List Script.Step} {scope : ScopeId} :
    Within law size (Code.script body scope) ↔ Script.LawfulSteps law size body := .rfl

instance : Bounded Callable where
  Within law size callable := Within law size callable.code ∧ Within law size callable.captured
  mono within le := ⟨within.1.mono le, within.2.mono le⟩

instance : Bounded ObjectKind where
  Within law size kind :=
    match kind with
    | .proxy target handler => Within law size target ∧ Within law size handler
    | .function callable => Within law size callable
    | _ => True
  mono {_ _ _ kind} within le := by
    cases kind with
    | proxy target handler =>
        exact ⟨Nat.lt_of_lt_of_le within.1 le, Nat.lt_of_lt_of_le within.2 le⟩
    | function callable => exact Bounded.mono (α := Callable) within le
    | _ => trivial

/-- Whether an object is a constructor of errors. -/
def ObjectKind.makesErrors (kind : ObjectKind) : Bool :=
  match kind with
  | .function { code := .builtin .errorConstructor, .. } => true
  | _ => false

/-- The prototype object that nothing but a raw operation replaces. -/
def Object.fixedPrototype? (object : Object) : Option ObjectId :=
  match object.property? "prototype" with
  | some { slot := .data (.object id), writable := false, configurable := false, .. } => some id
  | _ => none

/-- What takes an operation that the law forbids has not happened to an object. -/
structure Object.Keeps (law : Law) (object : Object) : Prop where
  whole : law.removes = false → object.removed = .empty
  equipped : law.writes = false → object.kind.makesErrors = true →
    object.fixedPrototype?.isSome = true

instance : Bounded Object where
  Within law size object :=
    (∀ key, Within law size (object.property? key)) ∧ Within law size object.prototype ∧
      Within law size object.kind ∧ object.Keeps law
  mono within le :=
    ⟨fun key => (within.1 key).mono le, within.2.1.mono le, within.2.2.1.mono le, within.2.2.2⟩

instance : Bounded Frame where
  Within law size frame :=
    Within law size frame.callee ∧ Within law size frame.callable ∧ Within law size frame.this ∧
      Within law size frame.arguments ∧ Within law size frame.newTarget
  mono within le :=
    ⟨within.1.mono le, within.2.1.mono le, within.2.2.1.mono le, within.2.2.2.1.mono le,
      within.2.2.2.2.mono le⟩

instance : Bounded Script.Context := ⟨fun law size context => Within law size context.frame, Bounded.mono⟩

instance : Bounded Lookup where
  Within law size lookup :=
    match lookup with
    | .missing => True
    | .data value => Within law size value
    | .accessor getter => Within law size getter
    | .proxy id => Within law size id
  mono {_ _ _ lookup} within le := by
    cases lookup with
    | missing => trivial
    | data value => exact Bounded.mono (α := Value) within le
    | accessor getter => exact Bounded.mono (α := Option Value) within le
    | proxy id => exact Bounded.mono (α := ObjectId) within le

end ClassLowering
