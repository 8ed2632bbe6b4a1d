import ClassLowering.Number.Binary64

/-!
# Script values

Values, the keys of properties, and the identities of objects and symbols. An object is named by
its place in the heap and a symbol by the number it was made with, so that two values are the same
value exactly when they are equal here: one not-a-number, and a zero for either sign.
-/

namespace ClassLowering

/-- The identity of an object: its place in the heap. -/
structure ObjectId where
  index : Nat
  deriving DecidableEq, Repr, Inhabited

/-- A symbol: its identity, and the description it was made with. -/
structure Symbol where
  serial : Nat
  description : Option String
  deriving DecidableEq, Repr

/-- Symbols are shown with their description, which may be missing. -/
def Symbol.text (symbol : Symbol) : String :=
  "Symbol(" ++ symbol.description.getD "" ++ ")"

/-- A script value. -/
inductive Value where
  | undefined
  | null
  | boolean (truth : Bool)
  | number (x : Float)
  | string (text : String)
  | symbol (sym : Symbol)
  | object (id : ObjectId)
  deriving DecidableEq, Repr, Inhabited

/-- The name of a property: a string or a symbol. -/
inductive PropertyKey where
  | string (text : String)
  | symbol (sym : Symbol)
  deriving DecidableEq, Repr

instance : Coe String PropertyKey := ⟨.string⟩

namespace PropertyKey

/-- The text of a key in messages. -/
def text : PropertyKey → String
  | .string text => text
  | .symbol sym => sym.text

/-- The key as a value. -/
def toValue : PropertyKey → Value
  | .string text => .string text
  | .symbol sym => .symbol sym

/-- The text of a string key. -/
def string? : PropertyKey → Option String
  | .string text => some text
  | .symbol _ => none

end PropertyKey

namespace Value

/-- SameValue: not-a-number is itself, and the two zeros differ. -/
def same (first second : Value) : Bool := decide (first = second)

@[simp] theorem same_iff {first second : Value} : first.same second = true ↔ first = second := by
  simp [same]

/-- Whether a value is `null` or `undefined`. -/
def isNullish : Value → Bool
  | .undefined | .null => true
  | _ => false

/-- What a condition takes for true. -/
def isTruthy : Value → Bool
  | .undefined | .null => false
  | .boolean truth => truth
  | .number x => (Binary64.ofFloat x).isTruthy
  | .string text => text != ""
  | .symbol _ | .object _ => true

/-- An optional object as a value; none is `null`. -/
def ofObject? : Option ObjectId → Value
  | some id => .object id
  | none => .null

/-- A present value other than `undefined`. -/
def defined? : Option Value → Option Value
  | some .undefined | none => none
  | some value => some value

end Value

end ClassLowering
