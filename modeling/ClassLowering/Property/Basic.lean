import ClassLowering.Value

/-!
# Properties

A property holds a value or a pair of accessor functions, and three attributes. The attributes are
independent of what is held: an accessor, too, remembers whether it is writable, which matters when
a raw write turns it into data.
-/

namespace ClassLowering

/-- What a property holds. -/
inductive Slot where
  | data (value : Value)
  | accessor (getter setter : Option Value)
  deriving DecidableEq, Repr

/-- A property: what it holds, and its attributes. A plain assignment makes all three true. -/
structure Property where
  slot : Slot
  writable : Bool := true
  enumerable : Bool := true
  configurable : Bool := true
  deriving DecidableEq, Repr

namespace Property

/-- The property after a raw write: its attributes are kept. -/
def withValue (property : Property) (value : Value) : Property :=
  { property with slot := .data value }

/-- A data property that methods and constructors use: hidden from enumeration. -/
def hidden (value : Value) : Property := { slot := .data value, enumerable := false }

end Property

end ClassLowering
