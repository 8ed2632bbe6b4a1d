import ClassLowering.Json.Basic
import ClassLowering.Number.Binary64

/-!
# JSON numerals

A numeral has an optional minus sign, a whole part without leading zeros, and optional decimals and
exponent. Its significand is held in 64 bits: whole digits that do not fit raise the exponent and
decimals that do not fit are dropped. A numeral is out of range when it overflows a binary64 number
while its exponent, so far as it is not used up, is not negative.
-/

namespace ClassLowering.Json.Numeral

/-- The digit a character stands for. -/
def digit? (c : Char) : Option Nat := if c.isDigit then some (c.toNat - '0'.toNat) else none

/-- The digits at the start of a text, and what follows them. -/
def digits : List Char → List Nat × List Char
  | [] => ([], [])
  | c :: rest =>
      match digit? c with
      | some digit =>
          let (more, after) := digits rest
          (digit :: more, after)
      | none => ([], c :: rest)

/-- Significands stay below this. -/
def significandLimit : Nat := UInt64.size

/-- A significand with one more digit, if that still fits. -/
def append? (significand digit : Nat) : Option Nat :=
  let longer := 10 * significand + digit
  if longer < significandLimit then some longer else none

/-- The whole part of a numeral: its significand, and how many digits did not fit. -/
def whole (significand : Nat) : List Nat → Nat × Nat
  | [] => (significand, 0)
  | digit :: rest =>
      match append? significand digit with
      | some longer => whole longer rest
      | none => (significand, rest.length + 1)

/-- The significand with the decimals that fit, and how many those are. -/
def decimals (significand : Nat) : List Nat → Nat × Nat
  | [] => (significand, 0)
  | digit :: rest =>
      match append? significand digit with
      | some longer =>
          let (full, places) := decimals longer rest
          (full, places + 1)
      | none => (significand, 0)

/-- The whole part at the start of a text: a zero alone, or digits that do not start with one. -/
def wholePart? (text : List Char) : Option (List Nat × List Char) :=
  match digits text with
  | ([], _) => none
  | (0 :: _ :: _, _) => none
  | read => some read

/-- The decimals at the start of a text, behind a point; at least one. -/
def decimalPart? : List Char → Option (List Nat × List Char)
  | '.' :: rest =>
      match digits rest with
      | ([], _) => none
      | read => some read
  | text => some ([], text)

/-- The exponent that is all of a text: its sign and its digits. -/
def exponentPart? : List Char → Option (Option (Bool × Nat))
  | [] => some none
  | mark :: rest =>
      if mark = 'e' ∨ mark = 'E' then
        let (negative, rest) : Bool × List Char :=
          match rest with
          | '+' :: rest => (false, rest)
          | '-' :: rest => (true, rest)
          | rest => (false, rest)
        match digits rest with
        | ([], _) => none
        | (exponent, []) =>
            some (some (negative, exponent.foldl (fun n digit => 10 * n + digit) 0))
        | (_, _ :: _) => none
      else none

/-- The largest power of ten that is a binary64 number. -/
def largestPower : Nat := 308

/-- Whether a significand times a power of ten is too large for a binary64 number. -/
def overflows (significand : Nat) (exponent : Int) : Bool :=
  if exponent < 0 then false
  else if largestPower < exponent then significand != 0
  else
    let product := Float.ofNat significand * Float.ofScientific 1 false exponent.toNat
    match Binary64.ofFloat product with
    | .infinite _ => true
    | _ => false

/-- Exponents are held in 32 bits with a sign. -/
def exponentLimit : Nat := 1 <<< 31

/-- The number that is all of a text. -/
def read? (text : List Char) : Option Json := do
  let (negative, text) : Bool × List Char :=
    match text with
    | '-' :: rest => (true, rest)
    | text => (false, text)
  let (wholeDigits, text) ← wholePart? text
  let (decimalDigits, text) ← decimalPart? text
  let exponent ← exponentPart? text
  let (significand, unused) := whole 0 wholeDigits
  let (significand, places) := decimals significand decimalDigits
  let shift : Int := (unused : Int) - places
  match exponent with
  | none =>
      if overflows significand shift then none
      else some (.number negative significand shift)
  | some (negativeExponent, magnitude) =>
      if exponentLimit ≤ magnitude then
        if significand != 0 && !negativeExponent then none else some (.number negative 0 0)
      else
        let exponent := if negativeExponent then shift - magnitude else shift + magnitude
        if overflows significand exponent then none
        else some (.number negative significand exponent)

end ClassLowering.Json.Numeral
