import ClassLowering.Script.Step

/-!
# Lowered classes

The constructor of a lowered class checks its instance, runs the super caller of the class on `this` and
the received arguments, writes data on what that returns, and returns it.
-/

namespace ClassLowering

open Script

/-- What a lowered constructor writes under a key. -/
inductive Datum where
  | literal (value : Value)
  | argument (place : Nat)
  | argumentCount

namespace Datum

/-- The operand of a datum. -/
def operand : Datum → Operand
  | literal value => .value value
  | argument place => .argument place
  | argumentCount => .argumentCount

/-- The value of a datum for the arguments of a construction. -/
def value (arguments : List Value) : Datum → Value
  | literal value => value
  | argument place => arguments[place]?.getD .undefined
  | argumentCount => .number (Number.ofNat arguments.length)

end Datum

/-- The outline of a lowered class: its name, the length of its constructor, whether this logs the
arguments that it receives, and what it writes on the instance. -/
structure LoweredClass where
  name : String
  length : Nat := 0
  logs : Bool := false
  writes : List (PropertyKey × Datum) := []

namespace LoweredClass

/-- In a base class the instance is `this`. -/
def plainStep : Step := .perform (.onValue .itself) [.this] { result := some "_this" }

/-- In a derived class the instance is what the super caller returns. -/
def superStep : Step :=
  .perform (.onFunction .call) [.named "_super", .this, .spread] { result := some "_this" }

/-- A write on the instance. -/
def writeStep (entry : PropertyKey × Datum) : Step :=
  .perform (.onProperty .set) [.named "_this", .value entry.1.toValue, entry.2.operand] {}

/-- The return of a constructor. -/
def returnSteps : List Step :=
  [.perform (.onClass .constructorReturn) [.this, .named "_this"] { result := some "_result" },
    .leave [.named "_result"] {}]

/-- The body of a lowered constructor, by the step that gives it its instance. -/
def body (outline : LoweredClass) (instanceStep : Step) : List Step :=
  .perform (.onClass .checkInstance) [.this, .callee] {} ::
    ((if outline.logs then [.perform .log [.spread] {}] else []) ++
      (instanceStep :: (outline.writes.map writeStep ++ returnSteps)))

/-- The constructor of a lowered class. -/
def callable (outline : LoweredClass) (instanceStep : Step) (scope : ScopeId) : Callable :=
  { name := outline.name, kind := .normal, code := .script (outline.body instanceStep) scope }

/-- The step that makes the constructor of a class. -/
def makeStep (outline : LoweredClass) (instanceStep : Step) : Step :=
  .makeFunction { name := outline.name, kind := .normal, length := outline.length }
    (outline.body instanceStep) [] { result := some "_class" }

/-- The declaration of a class. One that derives from a base is linked to it and gets a super caller. -/
def declaration (outline : LoweredClass) : Option Value → List Step
  | none => [outline.makeStep plainStep]
  | some base =>
      [outline.makeStep superStep,
        .perform (.onClass .link) [.named "_class", .value base] {},
        .perform (.onClass .superCaller) [.named "_class"] { result := some "_super" }]

/-- Declares a class in a scope of its own. The result is its constructor. -/
def declare (outline : LoweredClass) (base : Option Value) : Run Value := do
  let scope ← Run.openScope none
  let _ ← runSteps { scope } (outline.declaration base)
  return (← Run.state).readVariable scope "_class"

/-- Declares classes in order, each one below the one before. The last one is the first of the result. -/
def declareOnto (constructors : List Value) : List LoweredClass → Run (List Value)
  | [] => pure constructors
  | outline :: rest => do
      let constructor ← outline.declare constructors.head?
      declareOnto (constructor :: constructors) rest

/-- What a class writes for the arguments of a construction. -/
def entries (outline : LoweredClass) (arguments : List Value) : List (PropertyKey × Value) :=
  outline.writes.map fun entry => (entry.1, entry.2.value arguments)

/-- What a class writes meets neither a setter nor a read-only property on `Object.prototype`. -/
def WritesFreely (outline : LoweredClass) (heap : Heap) : Prop :=
  ∀ entry ∈ outline.writes,
    heap.assignment Intrinsic.objectPrototype.id entry.1 = some .write

/-- What a class writes meets neither a setter nor a read-only property from a prototype object
upwards. -/
def WritesFreelyFrom (outline : LoweredClass) (heap : Heap) (prototype : ObjectId) : Prop :=
  ∀ entry ∈ outline.writes, heap.assignment prototype entry.1 = some .write

/-- What a class logs for the arguments of a construction. -/
def notes (outline : LoweredClass) (arguments : List Value) : List JournalEntry :=
  if outline.logs then [.logged arguments] else []

end LoweredClass

/-- A class that was made: its constructor, its prototype object, and the scope of its constructor. -/
structure MadeClass where
  outline : LoweredClass
  constructor : ObjectId
  prototype : ObjectId
  scope : ScopeId

/-- The call of a lowered constructor on an instance. -/
@[reducible] def MadeClass.frame (made : MadeClass) (instanceStep : Step) (this : ObjectId)
    (arguments : List Value) (newTarget : Option ObjectId) : Frame :=
  { callee := made.constructor
    callable := made.outline.callable instanceStep made.scope
    this := .object this
    arguments
    newTarget }

/-- What the first of some classes derives from: nothing, or a constructor of the host. -/
inductive Root where
  | plain
  | host (constructor prototype : ObjectId)

namespace Root

/-- The step that gives a class its instance, by the classes above it. -/
def stepFor : Root → List MadeClass → Step
  | _, _ :: _ => LoweredClass.superStep
  | plain, [] => LoweredClass.plainStep
  | host .., [] => LoweredClass.superStep

/-- The constructor that a class links to, by the classes above it. -/
def parentFor : Root → List MadeClass → ObjectId
  | _, base :: _ => base.constructor
  | plain, [] => Intrinsic.functionPrototype.id
  | host constructor _, [] => constructor

/-- The prototype object that the one of a class links to, by the classes above it. -/
def aboveFor : Root → List MadeClass → ObjectId
  | _, base :: _ => base.prototype
  | plain, [] => Intrinsic.objectPrototype.id
  | host _ prototype, [] => prototype

/-- The constructors that a class may derive from, the nearest one first. -/
def constructors (root : Root) (classes : List MadeClass) : List Value :=
  classes.map (fun made => .object made.constructor) ++
    match root with
    | plain => []
    | host constructor _ => [.object constructor]

theorem constructors_plain (classes : List MadeClass) :
    plain.constructors classes = classes.map fun made => .object made.constructor :=
  List.append_nil _

end Root

end ClassLowering
