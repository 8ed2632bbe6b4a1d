/-!
# The run-time helpers of lowered classes

Lowered code calls its helpers by global names. A program marks the helpers that it uses, and only
those are installed, in the order of `Helper.all`.
-/

namespace ClassLowering

/-- A run-time helper. -/
inductive Helper where
  | classCallCheck
  | inherits
  | createClass
  | defineProperty
  | getPrototypeOf
  | setPrototypeOf
  | createSuper
  | possibleConstructorReturn
  | assertThisInitialized
  | get
  | typeOf
  | isNativeReflectConstruct
  deriving DecidableEq, Repr

namespace Helper

/-- Every helper, in the order of installation. -/
def all : List Helper :=
  [.classCallCheck, .inherits, .createClass, .defineProperty, .getPrototypeOf, .setPrototypeOf,
    .createSuper, .possibleConstructorReturn, .assertThisInitialized, .get, .typeOf,
    .isNativeReflectConstruct]

theorem mem_all (helper : Helper) : helper ∈ all := by cases helper <;> decide

/-- The global name of a helper. -/
def name : Helper → String
  | .classCallCheck => "_classCallCheck"
  | .inherits => "_inherits"
  | .createClass => "_createClass"
  | .defineProperty => "_defineProperty"
  | .getPrototypeOf => "_getPrototypeOf"
  | .setPrototypeOf => "_setPrototypeOf"
  | .createSuper => "_createSuper"
  | .possibleConstructorReturn => "_possibleConstructorReturn"
  | .assertThisInitialized => "_assertThisInitialized"
  | .get => "_get"
  | .typeOf => "_typeof"
  | .isNativeReflectConstruct => "_isNativeReflectConstruct"

/-- The number of arguments a helper expects. -/
def arity : Helper → Nat
  | .isNativeReflectConstruct => 0
  | .getPrototypeOf | .createSuper | .assertThisInitialized | .typeOf => 1
  | .classCallCheck | .inherits | .setPrototypeOf | .possibleConstructorReturn => 2
  | .createClass | .defineProperty | .get => 3

/-- The helper of a global name. -/
def ofName? (name : String) : Option Helper := all.find? fun helper => helper.name == name

/-- The marked helpers in the order of installation, each once. -/
def inOrder (marked : List Helper) : List Helper := all.filter fun helper => helper ∈ marked

end Helper

end ClassLowering
