import ClassLowering.Fault
import ClassLowering.Helper
import ClassLowering.Value

/-!
# The step language

A script is a list of steps. A step evaluates its operands, performs one operation on their values,
and may store the result in a variable. Functions carry their body as steps; conditions and loops
hold steps. Operations fall into families by what they work on.
-/

namespace ClassLowering

/-- How a function can be used: constructed with an instance made for it, only called, or
constructed by making its own result. -/
inductive FunctionKind where
  | normal
  | method
  | builtinConstructor
  deriving DecidableEq, Repr

/-- The objects that every realm has from the start. -/
inductive Intrinsic where
  | objectPrototype
  | functionPrototype
  | arrayPrototype
  | booleanPrototype
  | errorPrototype (errorClass : ErrorClass)
  | global
  deriving DecidableEq, Repr

namespace Script

/-- What a step computes with. -/
inductive Operand where
  | value (value : Value)
  /-- The receiver of the running function. -/
  | this
  /-- The running function. -/
  | callee
  /-- The constructor being constructed, if the running function was not merely called. -/
  | newTarget
  /-- The value of a variable. -/
  | named (name : String)
  | argument (place : Nat)
  | argumentCount
  /-- A value that the running function captured when it was made. -/
  | captured (place : Nat)
  | repeated (text : String) (count : Nat)
  /-- All the arguments, in a list of operands. -/
  | spread
  deriving DecidableEq, Repr

/-- A property descriptor whose values are operands. -/
structure DescriptorOperands where
  value : Option Operand := none
  writable : Option Bool := none
  get : Option Operand := none
  set : Option Operand := none
  enumerable : Option Bool := none
  configurable : Option Bool := none
  deriving DecidableEq, Repr

/-- A class member whose values are operands. -/
structure MemberOperands where
  key : Operand
  value : Option Operand := none
  get : Option Operand := none
  set : Option Operand := none
  enumerable : Bool := false
  deriving DecidableEq, Repr

/-- Operations on plain values. -/
inductive ValueOperation where
  | itself
  | add
  | typeOf
  | text
  | isTruthy
  | same
  | isCallable
  | isConstructor
  | isNullish
  | isError
  | key
  | inspect
  deriving DecidableEq, Repr

/-- Operations that make values, or reach those of the realm. -/
inductive CreationOperation where
  | symbol (description : Option String)
  | object
  | array
  | error (errorClass : ErrorClass) (message : String)
  | global
  | globalProperty (name : String)
  | defineGlobal (name : String)
  | intrinsic (intrinsic : Intrinsic)
  | installHelpers (marked : List Helper)
  deriving DecidableEq, Repr

/-- Operations on the properties of objects. -/
inductive PropertyOperation where
  | get
  | getOwnOrInherited
  | getWithReceiver
  | set
  | has
  | hasOwn
  | define (descriptor : DescriptorOperands)
  | defineRaw (writable enumerable configurable : Bool)
  | defineAll
  | remove
  | rawGet
  | rawSet
  | ownSlot
  | descriptor
  | descriptorFrom
  | descriptorTo (descriptor : DescriptorOperands)
  | ownKeys
  | enumerableKeys
  | forIn
  | list
  | preventExtensions
  | dump
  | chain
  deriving DecidableEq, Repr

/-- Operations on prototype links. -/
inductive PrototypeOperation where
  | rawPrototype
  | setRawPrototype
  | prototypeOfValue
  | getPrototypeOf
  | setPrototypeOf
  | lookupStrategy
  | writerStrategy
  | instanceOf
  deriving DecidableEq, Repr

/-- Operations on functions. -/
inductive FunctionOperation where
  | call
  | construct
  | constructAs
  | createFromConstructor
  | callGlobal (name : String)
  | callMethod (name : String)
  deriving DecidableEq, Repr

/-- Operations of lowered classes. -/
inductive ClassOperation where
  | checkInstance
  | link
  | install (members : List MemberOperands)
  | createClass (members statics : List MemberOperands)
  | memberFrom
  | defineField
  | assertThis
  | constructorReturn
  | superGet
  | nativeReflect
  | superCaller
  deriving DecidableEq, Repr

/-- What a step does with the values of its operands. -/
inductive Operation where
  | throwValue
  | raise (kind : FaultKind) (message : String)
  | log
  | onValue (operation : ValueOperation)
  | create (operation : CreationOperation)
  | onProperty (operation : PropertyOperation)
  | onPrototype (operation : PrototypeOperation)
  | onFunction (operation : FunctionOperation)
  | onClass (operation : ClassOperation)
  deriving DecidableEq, Repr

/-- The variables of a step: where a result goes, and where the value of a failure goes. -/
structure Targets where
  result : Option String := none
  failure : Option String := none
  deriving DecidableEq, Repr

/-- The outline of a function that a script makes. -/
structure FunctionOutline where
  name : String
  kind : FunctionKind
  length : Nat := 0
  deriving DecidableEq, Repr

/-- A step of a script. -/
inductive Step where
  | perform (operation : Operation) (operands : List Operand) (targets : Targets)
  | makeFunction (outline : FunctionOutline) (body : List Step) (captured : List Operand)
      (targets : Targets)
  /-- Leaves the running body with a value. -/
  | leave (operands : List Operand) (targets : Targets)
  | choose (operands : List Operand) (whenTrue whenFalse : List Step) (targets : Targets)
  /-- Runs steps a number of times, with the variable `i` counting from zero. -/
  | loop (count : Nat) (body : List Step) (targets : Targets)

instance : Inhabited Step := ⟨.leave [] {}⟩

end Script

end ClassLowering
