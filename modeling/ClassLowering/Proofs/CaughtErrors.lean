import ClassLowering.Proofs.Realm.Errors
import ClassLowering.Proofs.Run.Steps

/-!
# Errors that are caught

Where a script catches a fault, the host makes it an error object: a new object below the prototype object of
the class of the fault, with a message of its own. The name that such an error shows is found above it. As long
as the realm has its errors in place, the object is an instance of its class and of `Error`, and thrown again it
is described by the text of the fault.
-/

namespace ClassLowering

open Relation Script

/-! ## The error that a fault becomes -/

/-- The kinds of fault that scripts see as errors of a class of their own. -/
def FaultKind.surfacing : List FaultKind :=
  [.invalidInvocation, .invalidBaseType, .uninitializedThis, .typeError, .rangeError]

/-- Their display starts with the name of the class. -/
theorem FaultKind.displayLead?_of_surfacing {kind : FaultKind} (surfaces : kind ∈ surfacing) :
    kind.displayLead? = some (kind.errorClass.name ++ ": ") := by
  cases kind <;> first | rfl | exact absurd surfaces (by decide)

/-- The object that a fault becomes. -/
def Fault.object (fault : Fault) : Object where
  prototype := some fault.errorClass.prototype
  properties := Table.empty.insert "message" (.hidden (.string fault.message))
  kind := .error

namespace Fault

theorem slot?_message (fault : Fault) : fault.object.slot? "message" = some (.data (.string fault.message)) := by
  rw [Object.slot?, Object.property?, object, Table.get?_insert_self]
  rfl

theorem property?_name (fault : Fault) : fault.object.property? "name" = none := by
  rw [Object.property?, object, Table.get?_insert_ne _ _ (by decide), Table.get?_empty]

end Fault

/-- An object is to scripts the error that a fault became, and the host describes it by the text of the fault if
it is thrown. -/
structure State.ShowsFault (state : State) (engine : Engine) (fault : Fault) (id : ObjectId) : Prop where
  error : state.heap.isError (.object id) = true
  instances : ∀ errorClass ∈ [fault.errorClass, .error], ∃ constructor,
    Run.get Intrinsic.global.id errorClass.name engine state = .done constructor state ∧
      Run.instanceOf (.object id) constructor engine state = .done true state
  message : Run.get id "message" engine state = .done (.string fault.message) state
  described : ∃ text, ((Failure.fault fault).complaint state.heap).display? = some text ∧
    (Failure.thrown (.object id)).complaint state.heap = { kind := .uncaught, message := text }

section Made

variable {heap : Heap} {fault : Fault} {id : ObjectId} (made : heap.object id = fault.object)
include made

theorem Heap.proxy?_of_fault : (heap.object id).proxy? = none := by
  rw [made]
  rfl

theorem Heap.links_of_fault : heap.Links id fault.errorClass.prototype := congrArg Object.prototype made

/-- The object stands below the prototype objects of its class and of plain errors. -/
theorem Heap.reports_of_fault (errors : heap.HasErrors fault.errorClass) {errorClass : ErrorClass}
    (above : errorClass ∈ [fault.errorClass, .error]) : TransGen heap.Reports id errorClass.prototype := by
  have first := reports_of_links (proxy?_of_fault made) (links_of_fault made)
  by_cases own : errorClass = fault.errorClass
  · rw [own]
    exact .single first
  · obtain rfl : errorClass = .error := by simpa [own] using above
    exact .tail (.single first) (errors.plain (Ne.symm own))

theorem Heap.thrownText_of_fault (errors : heap.HasErrors fault.errorClass) (told : fault.message ≠ "") :
    heap.thrownText (.object id) = fault.errorClass.name ++ ": " ++ fault.message := by
  have error : (heap.object id).isError = true := by
    rw [made]
    rfl
  have name : heap.storedValue id "name" = some (.string fault.errorClass.name) := by
    rw [storedValue_inherited (by rw [made, fault.property?_name]) (links_of_fault made)]
    exact storedValue_own errors.name
  have message : heap.storedValue id "message" = some (.string fault.message) :=
    storedValue_own (by rw [made, fault.slot?_message])
  simp only [thrownText, error, if_true, name, message, Option.map_some, Option.getD_some, text, if_neg told]

end Made

theorem State.showsFault {state : State} {fault : Fault} {id : ObjectId}
    (made : state.heap.object id = fault.object) (errors : ∀ errorClass, state.heap.HasErrors errorClass)
    (surfaces : fault.kind ∈ FaultKind.surfacing) (told : fault.message ≠ "") (engine : Engine) :
    state.ShowsFault engine fault id where
  error := by
    rw [Heap.isError, made]
    rfl
  instances errorClass above := by
    obtain ⟨constructor, held, shows⟩ := (errors errorClass).constructor
    have inherits := Heap.inherits_iff.mpr (Heap.reports_of_fault made (errors _) above)
    refine ⟨.object constructor, Run.getFor_plain held, ?_⟩
    rw [Run.instanceOf_shown shows, Run.follow, inherits]
  message := Run.getFor_plain (Heap.plainRead?_slot (Heap.proxy?_of_fault made) (by rw [made, fault.slot?_message]))
  described := by
    refine ⟨fault.errorClass.name ++ ": " ++ fault.message, ?_, ?_⟩
    · rw [Failure.complaint, Complaint.display?, FaultKind.displayLead?_of_surfacing surfaces]
      rfl
    · rw [Failure.complaint, Heap.thrownText_of_fault made (errors _) told]

/-! ## Catching and throwing again -/

namespace Script

/-- Throws the value of a variable, and catches it in the same variable. -/
def rethrowStep (name : String) : Step := .perform .throwValue [.named name] { failure := some name }

/-- Throws the value of a variable and catches it a number of times, and then throws it out of the body. -/
def rethrowSteps (name : String) (rounds : Nat) : List Step :=
  List.replicate rounds (rethrowStep name) ++ [.perform .throwValue [.named name] {}]

variable {engine : Engine} {context : Context} {state next caught : State} {value : Value}
variable {targets : Targets} {name : String} {failure : Failure}

/-- The variable for a failure gets the value of the failure. -/
theorem settle_caught {run : Run Progress} (catches : targets.failure = some name)
    (ran : run engine state = .failed failure next)
    (built : Run.build failure.value engine next = .done value caught) :
    settle context targets run engine state =
      .done (.next (.report (.record [("caught", .value value)]))) (caught.assign context.scope name value) := by
  rw [settle, Run.bind_of_done (Run.attempt_of_failed ran)]
  dsimp only
  rw [catches]
  exact Run.bind_of_done built

theorem runStep_caught {operation : Operation} {operands : List Operand} (catches : targets.failure = some name)
    (performed : operation.perform context (Operand.evaluateAll context state operands) engine state =
      .failed failure next) (built : Run.build failure.value engine next = .done value caught) :
    runStep context (.perform operation operands targets) engine state =
      .done (.next (.report (.record [("caught", .value value)]))) (caught.assign context.scope name value) := by
  have asked : Run.state engine state = .done state state := rfl
  rw [runStep]
  refine settle_caught catches ?_ built
  rw [Run.bind_of_done asked]
  exact Run.bind_of_failed performed

theorem runSteps_cons_report {step : Step} {rest : List Step} {report : Report Value}
    (ran : runStep context step engine state = .done (.next (.report report)) next) :
    runSteps context (step :: rest) engine state =
      runSteps context rest engine (next.noting [.reported report]) := by
  rw [runSteps, Run.bind_of_done ran]
  rfl

/-- The value of a variable is thrown as it is. -/
theorem throwValue_apply (binds : state.Binds context.scope name value) :
    Operation.throwValue.perform context (Operand.evaluateAll context state [.named name]) engine state =
      .failed (.thrown value) state := by
  have read : state.readVariable context.scope name = value := State.readVariable_of_binds binds
  rw [← read]
  rfl

/-- A round gives the variable the value that it had. -/
theorem runStep_rethrow (binds : state.Binds context.scope name value) :
    runStep context (rethrowStep name) engine state =
      .done (.next (.report (.record [("caught", .value value)]))) (state.assign context.scope name value) :=
  runStep_caught rfl (throwValue_apply binds) rfl

/-- After any number of rounds the value that was caught first is thrown, and no object has changed. -/
theorem runSteps_rethrow (engine : Engine) (rounds : Nat) (binds : state.Binds context.scope name value) :
    ∃ after, runSteps context (rethrowSteps name rounds) engine state = .failed (.thrown value) after ∧
      after.heap = state.heap := by
  induction rounds generalizing state with
  | zero =>
      refine ⟨state, ?_, rfl⟩
      exact runSteps_cons_failed (runStep_perform_failed rfl (throwValue_apply binds))
  | succ rounds ih =>
      let settled := (state.assign context.scope name value).noting
        [.reported (.record [("caught", .value value)])]
      have kept : settled.Binds context.scope name value :=
        (State.binds_assign binds.index_lt).congr rfl
      obtain ⟨after, ran, same⟩ := ih kept
      refine ⟨after, ?_, same⟩
      exact (runSteps_cons_report (runStep_rethrow binds)).trans ran

/-- A failure that a step catches, and that is thrown on in rounds, leaves as the value that it had when it was
caught. -/
theorem runSteps_caught_rethrow {operation : Operation} {operands : List Operand} (rounds : Nat)
    (catches : targets.failure = some name)
    (performed : operation.perform context (Operand.evaluateAll context state operands) engine state =
      .failed failure next) (built : Run.build failure.value engine next = .done value caught)
    (inside : context.scope.index < caught.scopes.size) :
    ∃ after, runSteps context (.perform operation operands targets :: rethrowSteps name rounds) engine state =
        .failed (.thrown value) after ∧ after.heap = caught.heap := by
  let settled := (caught.assign context.scope name value).noting
    [.reported (.record [("caught", .value value)])]
  have binds : settled.Binds context.scope name value := (State.binds_assign inside).congr rfl
  obtain ⟨after, ran, same⟩ := runSteps_rethrow engine rounds binds
  exact ⟨after, (runSteps_cons_report (runStep_caught catches performed built)).trans ran, same⟩

end Script

/-- Engine errors survive being caught and thrown again: in every state of a session with its errors in place,
a fault with a message becomes a new object that scripts see as an error of its class, with its message, and that
the host describes by the text of the fault, right away, after any number of rounds of throwing and catching,
and whatever else happens meanwhile, if it leaves the object and the errors of the realm as they are. -/
theorem caught_faults_survive {law : Law} {profile : Profile} {marked : List Helper} {before state : State}
    (reached : (Session.prepared profile marked).Reaches law before) (during : before.Becomes law state)
    (installed : Realm.ErrorsInstalled law profile state.heap) {fault : Fault}
    (surfaces : fault.kind ∈ FaultKind.surfacing) (told : fault.message ≠ "") (engine : Engine) :
    ∃ id caught, Run.build (Failure.fault fault).value engine state = .done (.object id) caught ∧
      caught.ShowsFault engine fault id ∧
      (∀ later, caught.Becomes law later → Realm.ErrorsInstalled law profile later.heap →
        later.heap.object id = caught.heap.object id → later.ShowsFault engine fault id) ∧
      ∀ (context : Context) (operation : Operation) (operands : List Operand) (targets : Targets)
        (name : String) (start : State) (rounds : Nat),
        operation.perform context (Operand.evaluateAll context start operands) engine start =
          .failed (.fault fault) state →
        targets.failure = some name → context.scope.index < state.scopes.size →
          ∃ after, runSteps context (.perform operation operands targets :: rethrowSteps name rounds)
              engine start = .failed (.thrown (.object id)) after ∧
            after.ShowsFault engine fault id := by
  let id := state.heap.next
  let caught : State := { state with heap := (state.heap.allocate fault.object).2 }
  have built : Run.build (Failure.fault fault).value engine state = .done (.object id) caught := rfl
  have made : caught.heap.object id = fault.object := Heap.object_allocate_next ..
  have sound := (Session.sound_of_reaches reached during).heap
  have grown : state.heap.GrowsTo law caught.heap :=
    (Build.error_grows sound fault.errorClass fault.message).grown
  have catching : before.Becomes law caught := during.tail (.heap (.grow grown))
  have shows {later : State} (follows : caught.Becomes law later)
      (still : Realm.ErrorsInstalled law profile later.heap)
      (same : later.heap.object id = caught.heap.object id) : later.ShowsFault engine fault id :=
    State.showsFault (same.trans made) (Session.hasErrors_of_reaches reached (catching.trans follows) still)
      surfaces told engine
  have kept : Realm.ErrorsInstalled law profile caught.heap := installed.keep fun other present =>
    grown.object_eq other (Session.kind_eq_of_reaches reached during present).1
  refine ⟨id, caught, built, shows .refl kept rfl, fun later => shows, ?_⟩
  intro context operation operands targets name start rounds performed catches inside
  obtain ⟨after, ran, heap_eq⟩ := runSteps_caught_rethrow rounds catches performed built inside
  have errors := Session.hasErrors_of_reaches reached catching kept
  rw [← heap_eq] at made errors
  exact ⟨after, ran, State.showsFault made errors surfaces told engine⟩

/-- A script that calls `undefined` and throws the error twice more ends with the text of the error. -/
theorem undefined_call_rethrown :
    let profile := Preset.modern.profile
    let state := { Session.prepared profile [] with scopes := #[{}] }
    let step : Step := .perform (.onFunction .call) [.value .undefined] { failure := some "e" }
    (Session.prepared profile []).Reaches .script state ∧
      Realm.ErrorsInstalled .script profile state.heap ∧
      ∃ id after, runSteps { scope := ⟨0⟩ } (step :: rethrowSteps "e" 2) (Engine.ofDepth 0) state =
          .failed (.thrown (.object id)) after ∧
        (Failure.thrown (.object id)).complaint after.heap =
          { kind := .uncaught, message := "TypeError: undefined is not a function" } := by
  intro profile state step
  have reached : (Session.prepared profile []).Reaches .script state := .single (.scope none)
  have installed : Realm.ErrorsInstalled .script profile state.heap := Realm.errorsInstalled_heap _ _
  refine ⟨reached, installed, ?_⟩
  have surfaces : (Fault.notAFunction "undefined").kind ∈ FaultKind.surfacing := by decide
  obtain ⟨id, _, _, _, _, rethrown⟩ :=
    caught_faults_survive reached .refl installed surfaces (by decide) (Engine.ofDepth 0)
  obtain ⟨after, ran, shown⟩ := rethrown { scope := ⟨0⟩ } (.onFunction .call) [.value .undefined]
    { failure := some "e" } "e" state 2 rfl rfl (by decide)
  obtain ⟨text, display, described⟩ := shown.described
  cases (Option.some.inj display : "TypeError: " ++ "undefined is not a function" = text)
  exact ⟨id, after, ran, described⟩

end ClassLowering
