import ClassLowering.Run.Basic

/-!
# Variables and operands

Variables live in nested scopes: reading looks outwards, and assignment is always to the scope in
which a step runs. Operands only read the state, so that their order does not matter.
-/

namespace ClassLowering

namespace State

/-- The scope of an identity. -/
def scope (state : State) (id : ScopeId) : Scope := state.scopes[id.index]?.getD {}

/-- The value of a variable, looked for outwards through at most so many scopes. -/
def readFor (state : State) (name : String) : Nat → ScopeId → Value
  | 0, _ => .undefined
  | bound + 1, id =>
      let scope := state.scope id
      match scope.bindings.lookup name with
      | some value => value
      | none =>
          match scope.parent with
          | some outer => state.readFor name bound outer
          | none => .undefined

/-- The value of a variable; `undefined` when it was never assigned. -/
def readVariable (state : State) (id : ScopeId) (name : String) : Value :=
  state.readFor name (state.scopes.size + 1) id

/-- Assigns a variable of a scope. -/
def assign (state : State) (id : ScopeId) (name : String) (value : Value) : State :=
  { state with
    scopes := state.scopes.modify id.index fun scope =>
      { scope with
        bindings := (name, value) :: scope.bindings.filter fun entry => entry.1 != name } }

end State

namespace Run

/-- Adds a scope. -/
def openScope (parent : Option ScopeId) : Run ScopeId := fun _ state =>
  .done ⟨state.scopes.size⟩ { state with scopes := state.scopes.push { parent } }

/-- Adds an entry to the journal. -/
def note (entry : JournalEntry) : Run Unit :=
  modify fun state => { state with journal := entry :: state.journal }

end Run

namespace Script

/-- Where a step runs: in the call of a function or at top level, and in a scope. -/
structure Context where
  frame : Option Frame := none
  scope : ScopeId

/-- The value of an operand. All that belongs to a call is `undefined` at top level, and so is a list
of arguments where one value is asked for. -/
def Operand.evaluate (context : Context) (state : State) (operand : Operand) : Value :=
  match operand with
  | .value literal => literal
  | .this => (context.frame.map (·.this)).getD .undefined
  | .callee => (context.frame.map fun frame => .object frame.callee).getD .undefined
  | .newTarget => ((context.frame.bind (·.newTarget)).map .object).getD .undefined
  | .named name => state.readVariable context.scope name
  | .argument place => (context.frame.map (·.argument place)).getD .undefined
  | .argumentCount =>
      .number (Number.ofNat ((context.frame.map fun frame => frame.arguments.length).getD 0))
  | .captured place => (context.frame.map (·.captured place)).getD .undefined
  | .repeated text count => .string (String.join (List.replicate count text))
  | .spread => .undefined

/-- The values of a list of operands; `spread` stands for all the arguments. -/
def Operand.evaluateAll (context : Context) (state : State) (operands : List Operand) :
    List Value :=
  operands.flatMap fun operand =>
    match operand with
    | .spread => (context.frame.map (·.arguments)).getD []
    | operand => [operand.evaluate context state]

/-- The descriptor that operands give. -/
def DescriptorOperands.evaluate (context : Context) (state : State)
    (descriptor : DescriptorOperands) : Descriptor :=
  { value := descriptor.value.map (·.evaluate context state)
    writable := descriptor.writable
    get := descriptor.get.map (·.evaluate context state)
    set := descriptor.set.map (·.evaluate context state)
    enumerable := descriptor.enumerable
    configurable := descriptor.configurable }

/-- What a step gives: a script value, or a report. -/
inductive Reply where
  | value (value : Value)
  | report (report : Report Value)

/-- The reply of a step that gives nothing. -/
def Reply.nothing : Reply := .value .undefined

/-- The reply of a test. -/
def Reply.truth (truth : Bool) : Reply := .value (.boolean truth)

/-- The value of an operand by its place; a missing one is `undefined`. -/
def operandAt (values : List Value) (place : Nat) : Value := values[place]?.getD .undefined

/-- The object of an operand by its place. -/
def objectAt (values : List Value) (place : Nat) : Run ObjectId :=
  match operandAt values place with
  | .object id => pure id
  | _ => Run.raise (.operandNotObject place)

/-- The object of an operand, or none for `null`. -/
def linkAt (values : List Value) (place : Nat) : Run (Option ObjectId) :=
  match operandAt values place with
  | .object id => pure (some id)
  | .null => pure none
  | _ => Run.raise (.operandNotObject place)

/-- The property key of an operand. -/
def keyAt (values : List Value) (place : Nat) : Run PropertyKey :=
  Run.ask (·.key (operandAt values place))

end Script

end ClassLowering
