import ClassLowering.Text.Printable

/-!
# Quoted texts

An inspected text stands between double quotes. Quotes, backslashes and the four common controls
have short escapes; every other hidden character is written by its code point in hexadecimal.
-/

namespace ClassLowering.Text

/-- How one character stands inside a quoted text. -/
def escape (c : Char) : List Char :=
  match c with
  | '\x00' => ['\\', '0']
  | '\t' => ['\\', 't']
  | '\r' => ['\\', 'r']
  | '\n' => ['\\', 'n']
  | '\\' => ['\\', '\\']
  | '"' => ['\\', '"']
  | c =>
      if isShown c then [c]
      else '\\' :: 'u' :: '\x7b' :: Nat.toDigits 16 c.toNat ++ ['\x7d']

/-- A text between quotes, with its special characters escaped. -/
def quoted (text : String) : String :=
  String.ofList ('"' :: text.toList.flatMap escape ++ ['"'])

end ClassLowering.Text
