import ClassLowering.Number.Shortest

/-!
# Texts of numbers

Scripts see a number through `Number.text`: whole numbers below `10 ^ 21` in magnitude are written
through the signed 64-bit range, which they are clamped to; all others by their shortest digits in
positional notation. `Number.inspection` is the text that an inspected value shows.
-/

namespace ClassLowering

namespace Decimal

/-- A decimal without an exponent: zeros fill the places up to the point. -/
def positional (decimal : Decimal) : String :=
  let digits := Nat.toDigits 10 decimal.digits
  if 0 ≤ decimal.exponent then
    String.ofList (digits ++ List.replicate decimal.exponent.toNat '0')
  else
    let places := (-decimal.exponent).toNat
    if places < digits.length then
      let whole := digits.length - places
      String.ofList (digits.take whole ++ '.' :: digits.drop whole)
    else
      String.ofList ('0' :: '.' :: List.replicate (places - digits.length) '0' ++ digits)

end Decimal

namespace Number

/-- Shortest digits in positional notation, behind a sign. -/
def positional (negative : Bool) (significand : Nat) (exponent : Int) : String :=
  let magnitude :=
    if significand = 0 then "0" else (Decimal.shortest significand exponent).positional
  if negative then "-" ++ magnitude else magnitude

/-- Whole numbers from here on, in magnitude, are written by their shortest digits. -/
def wholeLimit : Nat := Nat.pow 10 21

/-- The nearest signed 64-bit integer. -/
def clamp (n : Int) : Int := max Int64.minValue.toInt (min n Int64.maxValue.toInt)

/-- The text of an exact value in scripts. -/
def valueText (value : Binary64) : String :=
  match value with
  | .notANumber => "NaN"
  | .infinite negative => if negative then "-Infinity" else "Infinity"
  | .finite negative significand exponent =>
      match value.integer? with
      | some n =>
          if n.natAbs < wholeLimit then toString (clamp n)
          else positional negative significand exponent
      | none => positional negative significand exponent

/-- The text of a number in scripts. -/
def text (x : Float) : String := valueText (.ofFloat x)

/-- The text of a number in the inspection of a value. -/
def inspection (x : Float) : String :=
  match Binary64.ofFloat x with
  | .notANumber => "NaN"
  | .infinite negative => if negative then "-inf" else "inf"
  | .finite negative significand exponent => positional negative significand exponent

end Number

end ClassLowering
