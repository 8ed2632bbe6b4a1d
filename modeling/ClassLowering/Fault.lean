/-!
# Faults

Why an operation of the host fails. A fault is a cause; its kind, the class of error that a script
sees, and its wording are functions of it. A script can also fail by throwing a value of its own:
that is not a fault.
-/

namespace ClassLowering

/-- The error classes that scripts know. -/
inductive ErrorClass where
  | error
  | typeError
  | referenceError
  | rangeError
  deriving DecidableEq, Repr

namespace ErrorClass

/-- The global name of an error class. -/
def name : ErrorClass → String
  | .error => "Error"
  | .typeError => "TypeError"
  | .referenceError => "ReferenceError"
  | .rangeError => "RangeError"

/-- All error classes, the common one first. -/
def all : List ErrorClass := [.error, .typeError, .referenceError, .rangeError]

/-- The class of a name; every unknown name is a plain error. -/
def ofName (name : String) : ErrorClass :=
  (all.find? fun errorClass => errorClass.name == name).getD .error

end ErrorClass

/-- The kinds of fault. -/
inductive FaultKind where
  | invalidInvocation
  | invalidBaseType
  | uninitializedThis
  | typeError
  | rangeError
  | uncaught
  | configuration
  | evaluation
  deriving DecidableEq, Repr

namespace FaultKind

/-- The class of error that a script sees. -/
def errorClass : FaultKind → ErrorClass
  | .invalidInvocation | .invalidBaseType | .typeError => .typeError
  | .uninitializedThis => .referenceError
  | .rangeError => .rangeError
  | .uncaught | .configuration | .evaluation => .error

/-- What stands before the message when a fault is displayed. An evaluation fault has no display: it
names a place inside the host. -/
def displayLead? : FaultKind → Option String
  | .invalidInvocation | .invalidBaseType | .typeError => some "TypeError: "
  | .uninitializedThis => some "ReferenceError: "
  | .rangeError => some "RangeError: "
  | .uncaught => some "Uncaught "
  | .configuration => some "Invalid host profile: "
  | .evaluation => none

end FaultKind

/-- The longest list of arguments that is read from a list object. -/
def maxArguments : Nat := 65535

/-- The cause of a failure. Texts are those of the value or key at fault. -/
inductive Fault where
  /-- A class constructor ran on something that is no instance of it. -/
  | classCalledAsFunction
  /-- A class extends something that is neither a function nor `null`. -/
  | invalidBase
  /-- A derived constructor used `this` before its super call. -/
  | thisUninitialized
  | notAFunction (text : String)
  | notAConstructor (text : String)
  | readOfNullish (text key : String)
  | notExtensible (key : String)
  | notRedefinable (key : String)
  | instanceOfNonCallable
  | instanceOfNonObjectPrototype (text : String)
  | invalidPrototype (text : String)
  | nullishToObject
  | setPrototypeOnNullish
  | setPrototypeRefused
  | linkAccessorOnNullish
  | linkAccessorRefused
  | definePropertyOnNonObject
  | propertyDescriptionNotObject (text : Option String)
  | accessorNotCallable
  | mixedDescriptor
  | mixedMember (key : String)
  | listFromNonObject (text : String)
  | tooManyArguments
  | notABoolean (method : String)
  | readOnlyPrototype
  | noPrototypeObject
  | fieldOnNonObject (text : String)
  | proxyWithoutNew
  | proxyOfNonObject
  | reflectOnNonObject (method : String)
  | reflectApplyNotCallable
  /-- An error constructor lost its prototype object. -/
  | errorPrototypeMissing
  /-- An object was read as a proxy that is none. -/
  | readThroughOrdinary
  /-- An operation was given something else where it needs an object. -/
  | operandNotObject (position : Nat)
  /-- A fault that a script raises by kind and message. -/
  | raised (kind : FaultKind) (message : String)
  deriving DecidableEq, Repr

namespace Fault

/-- The kind of a fault. -/
def kind : Fault → FaultKind
  | .classCalledAsFunction => .invalidInvocation
  | .invalidBase => .invalidBaseType
  | .thisUninitialized => .uninitializedThis
  | .tooManyArguments => .rangeError
  | .errorPrototypeMissing | .readThroughOrdinary => .evaluation
  | .operandNotObject _ => .configuration
  | .raised kind _ => kind
  | _ => .typeError

/-- The message of a fault. -/
def message : Fault → String
  | .classCalledAsFunction => "Cannot call a class as a function"
  | .invalidBase => "Super expression must either be null or a function"
  | .thisUninitialized => "this hasn't been initialised - super() hasn't been called"
  | .notAFunction text => text ++ " is not a function"
  | .notAConstructor text => text ++ " is not a constructor"
  | .readOfNullish text key =>
      "Cannot read properties of " ++ text ++ " (reading '" ++ key ++ "')"
  | .notExtensible key =>
      "Cannot define property " ++ key ++ ", object is not extensible"
  | .notRedefinable key => "Cannot redefine property: " ++ key
  | .instanceOfNonCallable => "Right-hand side of 'instanceof' is not callable"
  | .instanceOfNonObjectPrototype text =>
      "Function has non-object prototype '" ++ text ++ "' in instanceof check"
  | .invalidPrototype text => "Object prototype may only be an Object or null: " ++ text
  | .nullishToObject => "Cannot convert undefined or null to object"
  | .setPrototypeOnNullish => "Object.setPrototypeOf called on null or undefined"
  | .setPrototypeRefused =>
      "Object.setPrototypeOf: cyclic prototype chain or non-extensible object"
  | .linkAccessorOnNullish => "Object.prototype.__proto__ called on null or undefined"
  | .linkAccessorRefused =>
      "Object.prototype.__proto__: cyclic prototype chain or non-extensible object"
  | .definePropertyOnNonObject => "Object.defineProperty called on non-object"
  | .propertyDescriptionNotObject none => "Property description must be an object"
  | .propertyDescriptionNotObject (some text) =>
      "Property description must be an object: " ++ text
  | .accessorNotCallable => "Getter/setter must be a function"
  | .mixedDescriptor =>
      "Invalid property descriptor. Cannot both specify accessors and a value or writable attribute"
  | .mixedMember key =>
      "Invalid property descriptor for '" ++ key ++
        "'. Cannot both specify accessors and a value"
  | .listFromNonObject text => "CreateListFromArrayLike called on non-object: " ++ text
  | .tooManyArguments =>
      "Too many arguments in function call (only " ++ toString maxArguments ++ " allowed)"
  | .notABoolean method =>
      "Boolean.prototype." ++ method ++ " requires that 'this' be a Boolean"
  | .readOnlyPrototype => "Cannot assign to read only property 'prototype' of function"
  | .noPrototypeObject => "Class constructor has no prototype object"
  | .fieldOnNonObject text => "Cannot define property on " ++ text
  | .proxyWithoutNew => "Constructor Proxy requires 'new'"
  | .proxyOfNonObject => "Cannot create proxy with a non-object as target or handler"
  | .reflectOnNonObject method => "Reflect." ++ method ++ " called on non-object"
  | .reflectApplyNotCallable => "Reflect.apply target is not callable"
  | .errorPrototypeMissing => "error constructor without prototype"
  | .readThroughOrdinary => "proxy_get called on an ordinary object"
  | .operandNotObject position =>
      "driver: operand " ++ toString position ++ " is not an object"
  | .raised _ message => message

/-- The class of error that a script sees. -/
def errorClass (fault : Fault) : ErrorClass := fault.kind.errorClass

end Fault

end ClassLowering
