import ClassLowering.Proofs.Construction.Lowered

/-!
# Classes with any constructor

A class as it is written: its constructor has a body of whatever steps. Lowered classes are those with a
lowered body.
-/

namespace ClassLowering

open Script

/-- A class with any constructor: its name, and the length and the body of the constructor. -/
structure WrittenClass where
  name : String
  length : Nat := 0
  body : List Step

/-- A lowered class, by the step that gives it its instance. -/
def LoweredClass.written (outline : LoweredClass) (instanceStep : Step) : WrittenClass :=
  { name := outline.name, length := outline.length, body := outline.body instanceStep }

namespace WrittenClass

/-- The constructor of a class. -/
def callable (written : WrittenClass) (scope : ScopeId) : Callable :=
  { name := written.name, kind := .normal, code := .script written.body scope }

/-- The step that makes the constructor of a class. -/
def makeStep (written : WrittenClass) : Step :=
  .makeFunction { name := written.name, kind := .normal, length := written.length } written.body []
    { result := some "_class" }

/-- The declaration of a class. One that derives from a base is linked to it and gets a super caller. -/
def declaration (written : WrittenClass) : Option Value → List Step
  | none => [written.makeStep]
  | some base =>
      [written.makeStep,
        .perform (.onClass .link) [.named "_class", .value base] {},
        .perform (.onClass .superCaller) [.named "_class"] { result := some "_super" }]

/-- Declares a class in a scope of its own. The result is its constructor. -/
def declare (written : WrittenClass) (base : Option Value) : Run Value := do
  let scope ← Run.openScope none
  let _ ← runSteps { scope } (written.declaration base)
  return (← Run.state).readVariable scope "_class"

/-- Declares classes in order, each one below the one before. The result is the constructor of the last
one. -/
def declareBelow (base : Option Value) : List WrittenClass → Run (Option Value)
  | [] => pure base
  | written :: rest => do
      let constructor ← written.declare base
      declareBelow (some constructor) rest

end WrittenClass

namespace LoweredClass

variable (outline : LoweredClass)

theorem declare_none : outline.declare none = (outline.written plainStep).declare none := rfl

theorem declare_some (base : Value) :
    outline.declare (some base) = (outline.written superStep).declare (some base) := rfl

end LoweredClass

end ClassLowering
