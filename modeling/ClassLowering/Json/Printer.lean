import ClassLowering.Json.Basic

/-!
# Writing JSON texts

Documents are written without blanks. Quotes, backslashes and control characters are escaped; every
other character stands for itself.
-/

namespace ClassLowering.Json

/-- A hexadecimal code unit of four digits. -/
def codeUnit (code : Nat) : List Char :=
  let digits := Nat.toDigits 16 code
  List.replicate (4 - digits.length) '0' ++ digits

/-- How one character stands in a string. -/
def escape (c : Char) : List Char :=
  match c with
  | '"' => ['\\', '"']
  | '\\' => ['\\', '\\']
  | '\n' => ['\\', 'n']
  | '\r' => ['\\', 'r']
  | '\t' => ['\\', 't']
  | c => if c.toNat < 0x20 then '\\' :: 'u' :: codeUnit c.toNat else [c]

/-- A string with its quotes. -/
def quote (text : String) : String :=
  String.ofList ('"' :: text.toList.flatMap escape ++ ['"'])

/-- A number: its significand, and an exponent if it has one. -/
def numeral (negative : Bool) (significand : Nat) (exponent : Int) : String :=
  (if negative then "-" else "") ++ toString significand ++
    (if exponent = 0 then "" else "e" ++ toString exponent)

mutual

/-- The text of a document. -/
def render : Json → String
  | .null => "null"
  | .boolean truth => if truth then "true" else "false"
  | .number negative significand exponent => numeral negative significand exponent
  | .string text => quote text
  | .array items => "[" ++ ",".intercalate (renderItems items) ++ "]"
  | .object fields => "\x7b" ++ ",".intercalate (renderFields fields) ++ "\x7d"

/-- The texts of the items of an array. -/
def renderItems : List Json → List String
  | [] => []
  | item :: rest => render item :: renderItems rest

/-- The texts of the fields of an object. -/
def renderFields : List (String × Json) → List String
  | [] => []
  | (name, value) :: rest => (quote name ++ ":" ++ render value) :: renderFields rest

end

end ClassLowering.Json
