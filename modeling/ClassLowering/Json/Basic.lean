/-!
# JSON documents

Documents as host profiles are written in. Fields keep the order in which they stand; of fields with
one name the last value counts, at the place of the first. Numbers keep their decimal digits.
-/

namespace ClassLowering

/-- A JSON document. A number is `± significand * 10 ^ exponent`. -/
inductive Json where
  | null
  | boolean (truth : Bool)
  | number (negative : Bool) (significand : Nat) (exponent : Int)
  | string (text : String)
  | array (items : List Json)
  | object (fields : List (String × Json))

instance : Inhabited Json := ⟨.null⟩

namespace Json

/-- Adds a field, or replaces the value of the one with its name. -/
def setField (fields : List (String × Json)) (name : String) (value : Json) :
    List (String × Json) :=
  if fields.any fun field => field.1 == name then
    fields.map fun field => if field.1 == name then (name, value) else field
  else fields ++ [(name, value)]

/-- The field of a name. -/
def field? (name : String) : Json → Option Json
  | .object fields => fields.lookup name
  | _ => none

/-- The text of a string document. -/
def string? : Json → Option String
  | .string text => some text
  | _ => none

/-- The truth value of a boolean document. -/
def boolean? : Json → Option Bool
  | .boolean truth => some truth
  | _ => none

/-- The integer of a number without an exponent. -/
def integer? : Json → Option Int
  | .number negative significand 0 => some (if negative then -significand else significand)
  | _ => none

/-- An integer as a document. -/
def ofInt (n : Int) : Json := .number (n < 0) n.natAbs 0

end Json

end ClassLowering
