import ClassLowering.Engine
import ClassLowering.Realm
import ClassLowering.Script.Shown

/-!
# Sessions

A session runs phases of steps in the realm of one host profile. Every phase starts with no variables
and with fresh labels; the heap and what the realm found out stay. A step that fails does not keep the
next one from running.
-/

namespace ClassLowering

open Script

/-- How a step ended. -/
inductive Answer where
  | value (value : Shown)
  | report (report : Report Shown)
  /-- The step failed; a thrown value is shown. -/
  | complaint (complaint : Complaint) (thrown : Option Shown)
  /-- The step never ends. -/
  | endless

/-- How a step ended, and what was logged while it ran. -/
structure StepResult where
  answer : Answer
  log : List (List Shown) := []

/-- A session: the profile of its host, and its state. -/
structure Session where
  profile : Profile
  state : State

namespace Session

/-- Calls are nested less deep than this. -/
def callDepth : Nat := 1000000000000

/-- A session in a fresh realm. -/
def start (profile : Profile) : Session :=
  { profile, state := { heap := Realm.heap profile } }

/-- The answer to what a step led to. -/
def showProgress (heap : Heap) (progress : Progress) : StateM Labels Answer := do
  match progress with
  | .next (.value value) | .left value => return .value (← showValue heap value)
  | .next (.report report) => return .report (← showReport heap report)

/-- The answer to a failure. -/
def showFailure (heap : Heap) (failure : Failure) : StateM Labels Answer := do
  let complaint := failure.complaint heap
  match failure with
  | .thrown value => return .complaint complaint (some (← showValue heap value))
  | .fault _ => return .complaint complaint none

/-- Runs one step at top level. -/
def runStep (scope : ScopeId) (step : Step) (state : State) (labels : Labels) :
    StepResult × State × Labels :=
  let finish (show_ : StateM Labels Answer) (after : State) : StepResult × State × Labels :=
    let (log, labels) := (showJournal after.heap after.journal.reverse).run labels
    let (answer, labels) := show_.run labels
    ({ answer, log }, { after with journal := [] }, labels)
  match Script.runStep { scope } step (Engine.ofDepth callDepth) state with
  | .done progress after => finish (showProgress after.heap progress) after
  | .failed failure after => finish (showFailure after.heap failure) after
  | .exhausted => ({ answer := .endless }, state, labels)

/-- Runs steps at top level, one after the other. -/
def runSteps (scope : ScopeId) (steps : List Step) (state : State) (labels : Labels) :
    List StepResult × State :=
  match steps with
  | [] => ([], state)
  | step :: rest =>
      let (result, state, labels) := runStep scope step state labels
      let (results, state) := runSteps scope rest state labels
      (result :: results, state)

/-- Runs a phase. -/
def runPhase (session : Session) (steps : List Step) : List StepResult × Session :=
  let state := session.state
  let scope : ScopeId := ⟨state.scopes.size⟩
  let (results, state) :=
    runSteps scope steps { state with scopes := state.scopes.push {} } ∅
  (results, { session with state })

/-- Runs phases, one after the other. -/
def runPhases (session : Session) (phases : List (List Step)) : List (List StepResult) :=
  match phases with
  | [] => []
  | steps :: rest =>
      let (results, session) := session.runPhase steps
      results :: session.runPhases rest

end Session

end ClassLowering
