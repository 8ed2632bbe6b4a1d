import ClassLowering.Builtin.Helper
import ClassLowering.Script.Operation.Property

/-!
# Operations of lowered classes
-/

namespace ClassLowering.Script

open Run

/-- The member that operands give. -/
def MemberOperands.evaluate (context : Context) (state : State) (member : MemberOperands) :
    Member :=
  { key := state.heap.key (member.key.evaluate context state)
    value := member.value.map (·.evaluate context state)
    get := member.get.map (·.evaluate context state)
    set := member.set.map (·.evaluate context state)
    enumerable := member.enumerable }

namespace ClassOperation

/-- What a member holds. -/
def memberReport (member : Member) : Report Value :=
  .record
    [("key", .value member.key.toValue), ("value", .optional member.value),
      ("get", .optional member.get), ("set", .optional member.set),
      ("enumerable", .flag member.enumerable)]

/-- The members that lists of operands give. -/
def evaluateMembers (context : Context) (members : List MemberOperands) : Run (List Member) := do
  let state ← state
  return members.map (·.evaluate context state)

/-- Performs an operation of lowered classes. -/
def perform (operation : ClassOperation) (context : Context) (values : List Value) :
    Run Reply := do
  let first := operandAt values 0
  let second := operandAt values 1
  match operation with
  | .checkInstance =>
      Run.checkInstance first second
      return .nothing
  | .link =>
      linkClass first second
      return .nothing
  | .install members =>
      let id ← objectAt values 0
      Run.install id (← evaluateMembers context members)
      return .nothing
  | .createClass members statics =>
      let members ← evaluateMembers context members
      let statics ← evaluateMembers context statics
      return .value (← Run.createClass first members statics)
  | .memberFrom => return .report (memberReport (← memberOf (← objectAt values 0)))
  | .defineField =>
      return .value (← Run.defineField first (← keyAt values 1) (operandAt values 2))
  | .assertThis => return .value (← Run.assertThis first)
  | .constructorReturn => return .value (← Run.constructorReturn first second)
  | .superGet => return .value (← Run.superGet first (← keyAt values 1) (operandAt values 2))
  | .nativeReflect => return .truth (← hasNativeConstruct)
  | .superCaller => return .value (.object (← makeSuperCaller first))

end ClassOperation

end ClassLowering.Script
