import ClassLowering.Engine
import ClassLowering.Proofs.Composition.Builtin

/-!
# Composed scripts

Operations, steps and bodies are composed runs, and so is the code of every frame. They are guarded where
the operations of the script are tested.
-/

namespace ClassLowering

namespace State

variable (state : State) (caches : Caches)

theorem readFor_caches (name : String) (bound : Nat) (id : ScopeId) :
    readFor { state with caches } name bound id = state.readFor name bound id := by
  induction bound generalizing id with
  | zero => rfl
  | succ bound ih =>
      simp only [readFor, ih]
      rfl

theorem readVariable_caches (id : ScopeId) (name : String) :
    readVariable { state with caches } id name = state.readVariable id name :=
  state.readFor_caches caches name _ id

end State

namespace Script

open Run

variable {guarded : Bool} {context : Context} {values : List Value}

/-! ## Operands -/

section Operands

variable (state : State) (caches : Caches)

theorem evaluate_caches (operand : Operand) :
    operand.evaluate context { state with caches } = operand.evaluate context state := by
  cases operand with
  | named name => exact state.readVariable_caches caches context.scope name
  | _ => rfl

theorem evaluateAll_caches (operands : List Operand) :
    Operand.evaluateAll context { state with caches } operands =
      Operand.evaluateAll context state operands := by
  unfold Operand.evaluateAll
  simp only [evaluate_caches]

theorem evaluate_descriptor_caches (given : DescriptorOperands) :
    given.evaluate context { state with caches } = given.evaluate context state := by
  unfold DescriptorOperands.evaluate
  simp only [evaluate_caches]

theorem evaluate_member_caches (member : MemberOperands) :
    member.evaluate context { state with caches } = member.evaluate context state := by
  unfold MemberOperands.evaluate
  simp only [evaluate_caches]

end Operands

theorem objectAt_composed (place : Nat) : Composed guarded (objectAt values place) := by
  unfold objectAt
  split
  · exact composed_pure _
  · exact composed_raise _

theorem linkAt_composed (place : Nat) : Composed guarded (linkAt values place) := by
  unfold linkAt
  split
  · exact composed_pure _
  · exact composed_pure _
  · exact composed_raise _

theorem keyAt_composed (place : Nat) : Composed guarded (keyAt values place) := composed_ask _

/-! ## Operations -/

theorem propertyOperation_composed (operation : PropertyOperation)
    (tested : guarded = true → (Operation.onProperty operation).Tested) :
    Composed guarded (operation.perform context values) := by
  cases operation with
  | get => exact .bind (keyAt_composed _) fun _ => .bind getOf_composed fun _ => composed_pure _
  | getOwnOrInherited =>
      exact .bind (objectAt_composed _) fun _ => .bind (keyAt_composed _) fun _ =>
        .bind get_composed fun _ => composed_pure _
  | getWithReceiver =>
      exact .bind (objectAt_composed _) fun _ => .bind (keyAt_composed _) fun _ =>
        .bind (getFor_composed _) fun _ => composed_pure _
  | set =>
      exact .bind (objectAt_composed _) fun _ => .bind (keyAt_composed _) fun _ =>
        .bind set_composed fun _ => composed_pure _
  | has =>
      exact .bind (objectAt_composed _) fun _ => .bind (keyAt_composed _) fun _ =>
        .bind has_composed fun _ => composed_pure _
  | define given =>
      refine .bind (objectAt_composed _) fun id => ?_
      refine .view (fun state caches => ?_) fun state => .bind (keyAt_composed _) fun key => ?_
      · simp only [evaluate_descriptor_caches]
      · refine .bind (define_composed fun asked => ?_) fun _ => composed_pure _
        obtain ⟨getter, setter⟩ := tested asked
        exact ⟨congrArg (Option.map _) getter, congrArg (Option.map _) setter⟩
  | defineRaw writable enumerable configurable =>
      refine .bind (objectAt_composed _) fun id => .bind (keyAt_composed _) fun key => ?_
      exact .bind (composed_change fun _ _ sound => sound.setProperty trivial) fun _ => composed_pure _
  | defineAll =>
      exact .bind (objectAt_composed _) fun _ => .bind (objectAt_composed _) fun _ =>
        .bind defineAll_composed fun _ => composed_pure _
  | remove =>
      refine .bind (objectAt_composed _) fun id => .bind (keyAt_composed _) fun key => ?_
      refine .bind (.bind (composed_ask _) fun present => ?_) fun _ => composed_pure _
      exact .bind (composed_change fun _ _ sound => sound.removeProperty) fun _ => composed_pure _
  | rawSet =>
      refine .bind (objectAt_composed _) fun id => .bind (keyAt_composed _) fun key => ?_
      exact .bind (composed_change fun _ _ sound => sound.setValue _) fun _ => composed_pure _
  | hasOwn | rawGet | ownSlot | descriptor =>
      exact .bind (objectAt_composed _) fun _ => .bind (keyAt_composed _) fun _ =>
        .bind (composed_ask _) fun _ => composed_pure _
  | descriptorFrom =>
      exact .bind (objectAt_composed _) fun _ => .bind descriptorOf_composed fun _ => composed_pure _
  | descriptorTo given =>
      refine .view (fun state caches => ?_) fun state => ?_
      · simp only [evaluate_descriptor_caches]
      · exact .bind (composed_build fun _ => Build.guards_descriptorRecord _) fun _ => composed_pure _
  | ownKeys | enumerableKeys | dump =>
      exact .bind (objectAt_composed _) fun _ => .bind (composed_ask _) fun _ => composed_pure _
  | forIn | chain =>
      exact .bind (objectAt_composed _) fun _ => .bind (composed_follow _) fun _ => composed_pure _
  | list => exact .bind elementsOf_composed fun _ => composed_pure _
  | preventExtensions =>
      refine .bind (objectAt_composed _) fun id => ?_
      exact .bind (composed_change fun _ _ sound => sound.close) fun _ => composed_pure _

theorem newSymbol_composed (description : Option String) :
    Composed guarded (CreationOperation.newSymbol description) :=
  composed_silent ⟨fun _ _ _ => rfl, fun _ _ _ => rfl⟩ (fun _ _ => rfl) fun _ _ => Nat.le_refl _

theorem requestedPrototype_composed : Composed guarded (CreationOperation.requestedPrototype values) := by
  unfold CreationOperation.requestedPrototype
  split
  · exact composed_pure _
  · exact linkAt_composed _

theorem creationOperation_composed (operation : CreationOperation) :
    Composed guarded (operation.perform values) := by
  cases operation with
  | symbol description => exact .bind (newSymbol_composed _) fun _ => composed_pure _
  | object =>
      exact .bind requestedPrototype_composed fun _ =>
        .bind (composed_build fun _ => Build.guards_object _) fun _ => composed_pure _
  | array => exact .bind (composed_build fun _ => Build.guards_list _) fun _ => composed_pure _
  | error errorClass message =>
      exact .bind (composed_build fun _ => Build.guards_error _ _) fun _ => composed_pure _
  | global => exact composed_pure _
  | globalProperty name => exact .bind (getGlobal_composed name) fun _ => composed_pure _
  | defineGlobal name =>
      exact .bind (composed_build fun _ => Build.guards_defineGlobal _ _) fun _ => composed_pure _
  | intrinsic named => exact composed_pure _
  | installHelpers marked =>
      exact .bind (composed_build fun _ => Build.guards_installHelpers marked)
        fun _ => composed_pure _

theorem prototypeOperation_composed (operation : PrototypeOperation) :
    Composed guarded (operation.perform values) := by
  cases operation with
  | rawPrototype =>
      refine .bind (objectAt_composed _) fun _ => .bind (composed_ask _) fun prototype => ?_
      cases prototype <;> exact composed_pure _
  | setRawPrototype =>
      exact .bind (objectAt_composed _) fun _ => .bind (linkAt_composed _) fun _ =>
        .bind setPrototype_composed fun _ => composed_pure _
  | prototypeOfValue => exact .bind prototypeOfValue_composed fun _ => composed_pure _
  | getPrototypeOf => exact .bind getPrototypeOf_composed fun _ => composed_pure _
  | setPrototypeOf => exact .bind setPrototypeOf_composed fun _ => composed_pure _
  | lookupStrategy => exact .bind .lookupStrategy fun _ => composed_pure _
  | writerStrategy => exact .bind .writerStrategy fun _ => composed_pure _
  | instanceOf => exact .bind instanceOf_composed fun _ => composed_pure _

theorem functionOperation_composed (operation : FunctionOperation) :
    Composed guarded (operation.perform values) := by
  cases operation with
  | call => exact .bind (call_composed _ _ _) fun _ => composed_pure _
  | construct => exact .bind (constructFor_composed _ _) fun _ => composed_pure _
  | constructAs => exact .bind (constructFor_composed _ _) fun _ => composed_pure _
  | createFromConstructor =>
      exact .bind (objectAt_composed _) fun _ => .bind (objectAt_composed _) fun _ =>
        .bind createFromConstructor_composed fun _ => composed_pure _
  | callGlobal name =>
      exact .bind (getGlobal_composed name) fun _ => .bind (call_composed _ _ _) fun _ =>
        composed_pure _
  | callMethod name =>
      exact .bind getOf_composed fun _ => .bind (call_composed _ _ _) fun _ => composed_pure _

/-- The members that operands give are data if none of the operands is an accessor function. -/
theorem evaluateMembers_bind_composed {α : Type} {members : List MemberOperands}
    {rest : List Member → Run α} (isData : guarded = true → ∀ member ∈ members, member.IsData)
    (after : ∀ evaluated, (guarded = true → ∀ member ∈ evaluated, Member.IsData member) →
      Composed guarded (rest evaluated)) :
    Composed guarded (ClassOperation.evaluateMembers context members >>= rest) := by
  unfold ClassOperation.evaluateMembers
  rw [bind_assoc]
  refine .view (fun state caches => ?_) fun state => after _ fun asked member listed => ?_
  · simp only [evaluate_member_caches]
  · obtain ⟨operands, given, rfl⟩ := List.mem_map.mp listed
    obtain ⟨getter, setter⟩ := isData asked operands given
    exact ⟨congrArg (Option.map _) getter, congrArg (Option.map _) setter⟩

theorem classOperation_composed (operation : ClassOperation)
    (tested : guarded = true → (Operation.onClass operation).Tested) :
    Composed guarded (operation.perform context values) := by
  cases operation with
  | checkInstance => exact .bind checkInstance_composed fun _ => composed_pure _
  | link => exact .bind linkClass_composed fun _ => composed_pure _
  | install members =>
      refine .bind (objectAt_composed _) fun id => ?_
      refine evaluateMembers_bind_composed tested fun evaluated isData => ?_
      exact .bind (install_composed isData) fun _ => composed_pure _
  | createClass members statics =>
      refine evaluateMembers_bind_composed (fun asked => (tested asked).1) fun first firstData => ?_
      refine evaluateMembers_bind_composed (fun asked => (tested asked).2) fun second secondData => ?_
      exact .bind (createClass_composed firstData secondData) fun _ => composed_pure _
  | memberFrom =>
      exact .bind (objectAt_composed _) fun _ => .bind memberOf_composed fun _ => composed_pure _
  | defineField =>
      exact .bind (keyAt_composed _) fun _ => .bind defineField_composed fun _ => composed_pure _
  | assertThis => exact .bind (assertThis_composed _) fun _ => composed_pure _
  | constructorReturn => exact .bind (constructorReturn_composed _ _) fun _ => composed_pure _
  | superGet => exact .bind (keyAt_composed _) fun _ => .bind superGet_composed fun _ => composed_pure _
  | nativeReflect => exact .bind hasNativeConstruct_composed fun _ => composed_pure _
  | superCaller => exact .bind makeSuperCaller_composed fun _ => composed_pure _

theorem note_composed (entry : JournalEntry) : Composed guarded (note entry) :=
  composed_modify (fun _ => rfl) (fun _ _ => rfl) fun _ => Nat.le_refl _

/-- Every operation is composed. -/
theorem operation_composed (operation : Operation) (tested : guarded = true → operation.Tested) :
    Composed guarded (operation.perform context values) := by
  cases operation with
  | throwValue => exact composed_fail _
  | raise kind message => exact composed_raise _
  | log => exact .bind (note_composed _) fun _ => composed_pure _
  | onValue operation => exact composed_ask fun heap => operation.reply heap values
  | create operation => exact creationOperation_composed operation
  | onProperty operation => exact propertyOperation_composed operation tested
  | onPrototype operation => exact prototypeOperation_composed operation
  | onFunction operation => exact functionOperation_composed operation
  | onClass operation => exact classOperation_composed operation tested

/-! ## Steps -/

theorem store_composed (name : Option String) (value : Value) :
    Composed guarded (store context name value) := by
  unfold store
  cases name with
  | none => exact composed_pure _
  | some name =>
      refine composed_modify (fun _ => rfl) (fun _ _ => rfl) fun state => ?_
      simp [State.KeepsScopes, State.assign]

theorem settle_composed (targets : Targets) {run : Run Progress} (inner : Composed guarded run) :
    Composed guarded (settle context targets run) := by
  unfold settle
  refine .bind (.attempt inner) fun outcome => ?_
  cases outcome with
  | ok progress =>
      cases progress with
      | next reply =>
          cases reply with
          | value value => exact .bind (store_composed _ _) fun _ => composed_pure _
          | report report => exact composed_pure _
      | left value => exact .bind (store_composed _ _) fun _ => composed_pure _
  | error failure =>
      dsimp only
      split
      · exact .bind (composed_build fun _ => failure.guards_value) fun _ =>
          .bind (store_composed _ _) fun _ => composed_pure _
      · exact composed_fail _

theorem roundsFrom_composed {round : Nat → Run (Option Value)}
    (each : ∀ place, Composed guarded (round place)) (first count : Nat) :
    Composed guarded (roundsFrom round first count) := by
  induction count generalizing first with
  | zero => exact composed_pure _
  | succ count ih =>
      unfold roundsFrom
      refine .bind (each first) fun result => ?_
      cases result with
      | some value => exact composed_pure _
      | none => exact ih _

mutual

/-- Every step is composed. -/
theorem runStep_composed :
    (step : Step) → (guarded = true → step.Tested) → Composed guarded (runStep context step)
  | .perform operation operands targets, tested => by
      unfold Step.Tested at tested
      unfold runStep
      refine settle_composed targets (.view (fun state caches => ?_) fun state => ?_)
      · simp only [evaluateAll_caches]
      · exact .bind (operation_composed operation tested) fun _ => composed_pure _
  | .makeFunction outline body captured targets, tested => by
      unfold Step.Tested at tested
      unfold runStep
      refine settle_composed targets (.view (fun state caches => ?_) fun state => ?_)
      · simp only [evaluateAll_caches]
      · refine .bind (composed_build fun asked => Build.guards_function ?_ _) fun _ => composed_pure _
        exact tested asked
  | .leave operands targets, _ => by
      unfold runStep
      refine settle_composed targets (.view (fun state caches => ?_) fun state => composed_pure _)
      simp only [evaluateAll_caches]
  | .choose operands whenTrue whenFalse targets, tested => by
      unfold Step.Tested at tested
      unfold runStep
      refine settle_composed targets (.view (fun state caches => ?_) fun state => ?_)
      · simp only [evaluateAll_caches]
      · dsimp only
        split
        · exact .bind (runSteps_composed whenTrue fun asked => (tested asked).1) fun _ => composed_pure _
        · exact .bind (runSteps_composed whenFalse fun asked => (tested asked).2) fun _ => composed_pure _
  | .loop count body targets, tested => by
      unfold Step.Tested at tested
      unfold runStep
      refine settle_composed targets (.bind (roundsFrom_composed (fun _ => ?_) 0 count) fun _ =>
        composed_pure _)
      exact .bind (store_composed _ _) fun _ => runSteps_composed body tested

/-- Steps, one after the other, are composed. -/
theorem runSteps_composed :
    (steps : List Step) → (guarded = true → TestedSteps steps) →
      Composed guarded (runSteps context steps)
  | [], _ => by
      unfold runSteps
      exact composed_pure _
  | step :: rest, tested => by
      unfold TestedSteps at tested
      unfold runSteps
      have later := runSteps_composed rest fun asked => (tested asked).2
      refine .bind (runStep_composed step fun asked => (tested asked).1) fun progress => ?_
      split
      · exact composed_pure _
      · exact .bind (note_composed _) fun _ => later
      · exact later

end

theorem openScope_composed (parent : Option ScopeId) : Composed guarded (openScope parent) := by
  refine composed_silent ⟨fun _ _ _ => rfl, fun _ _ _ => rfl⟩ (fun _ _ => rfl) fun _ state => ?_
  simp [Run.openScope, Outcome.All, State.KeepsScopes]

theorem runBody_composed {body : List Step} {scope : ScopeId} {frame : Frame}
    (tested : guarded = true → TestedSteps body) : Composed guarded (runBody body scope frame) :=
  .bind (openScope_composed _) fun _ => .bind (runSteps_composed body tested) fun _ => composed_pure _

end Script

/-- Code that reads members from records: that of `_createClass`. -/
def Code.readsMembers (code : Code) : Bool :=
  match code with
  | .builtin (.helper .createClass) => true
  | _ => false

/-- The code of every frame is a composed run. -/
theorem Frame.run_composed {guarded : Bool} {frame : Frame}
    (tested : guarded = true →
      frame.callable.code.Tested ∧ frame.callable.code.readsMembers = false) :
    Run.Composed guarded frame.run := by
  unfold run
  cases code : frame.callable.code with
  | builtin builtin =>
      refine Builtin.run_composed builtin fun asked same => ?_
      have plain := (tested asked).2
      rw [code, same] at plain
      cases plain
  | script body scope =>
      rw [code] at tested
      exact Script.runBody_composed fun asked => (tested asked).1

end ClassLowering
