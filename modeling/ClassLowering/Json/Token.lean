import ClassLowering.Json.Numeral

/-!
# Tokens of JSON texts

A text is split into tokens one character at a time. Strings are unescaped here; a half of a
surrogate pair that stands alone and a raw control character are refused. Words, which are the
literals and the numerals, are read whole.
-/

namespace ClassLowering.Json

/-- A token. A scalar is a complete document. -/
inductive Token where
  | openArray
  | closeArray
  | openObject
  | closeObject
  | comma
  | colon
  | string (text : String)
  | scalar (document : Json)

/-- Where the splitting stands between two characters. Characters read so far are in reverse. -/
inductive Lexing where
  | between
  | word (read : List Char)
  | string (read : List Char)
  | escape (read : List Char)
  /-- Inside a code unit: how many of its four digits are left, and their value so far. A lead is the
  first half of a pair whose second half this is. -/
  | codeUnit (read : List Char) (lead : Option Nat) (left value : Nat)
  /-- Behind the first half of a pair, where only `\u` may follow. -/
  | pair (read : List Char) (lead : Nat)
  | pairMark (read : List Char) (lead : Nat)

namespace Token

/-- Space, line feed, carriage return and tab. -/
def isBlank (c : Char) : Bool := c = ' ' || c = '\n' || c = '\r' || c = '\t'

/-- The characters that words are made of. -/
def isWordChar (c : Char) : Bool := c.isAlphanum || c = '+' || c = '-' || c = '.'

/-- The token of a mark. -/
def mark? : Char → Option Token
  | '[' => some .openArray
  | ']' => some .closeArray
  | '\x7b' => some .openObject
  | '\x7d' => some .closeObject
  | ',' => some .comma
  | ':' => some .colon
  | _ => none

/-- The token of a word. -/
def ofWord? (word : List Char) : Option Token :=
  if word = ['n', 'u', 'l', 'l'] then some (.scalar .null)
  else if word = ['t', 'r', 'u', 'e'] then some (.scalar (.boolean true))
  else if word = ['f', 'a', 'l', 's', 'e'] then some (.scalar (.boolean false))
  else (Numeral.read? word).map .scalar

/-- The character of a short escape. -/
def unescape? : Char → Option Char
  | '"' => some '"'
  | '\\' => some '\\'
  | '/' => some '/'
  | 'b' => some '\x08'
  | 'f' => some '\x0c'
  | 'n' => some '\n'
  | 'r' => some '\r'
  | 't' => some '\t'
  | _ => none

/-- The hexadecimal digit a character stands for. -/
def hexDigit? (c : Char) : Option Nat :=
  if c.isDigit then some (c.toNat - '0'.toNat)
  else if 'a' ≤ c ∧ c ≤ 'f' then some (c.toNat - 'a'.toNat + 10)
  else if 'A' ≤ c ∧ c ≤ 'F' then some (c.toNat - 'A'.toNat + 10)
  else none

/-- What a complete code unit leads to: a character, or the wait for the second half of a pair. -/
def codeUnit? (read : List Char) (lead : Option Nat) (code : Nat) : Option Lexing :=
  let isTrail := 0xdc00 ≤ code && code ≤ 0xdfff
  let isLead := 0xd800 ≤ code && code ≤ 0xdbff
  match lead with
  | some lead =>
      if isTrail then
        some (.string (Char.ofNat (0x10000 + (lead - 0xd800) * 0x400 + (code - 0xdc00)) :: read))
      else none
  | none =>
      if isLead then some (.pair read code)
      else if isTrail then none
      else some (.string (Char.ofNat code :: read))

/-- One character between tokens. -/
def startAt? (tokens : List Token) (c : Char) : Option (List Token × Lexing) :=
  if isBlank c then some (tokens, .between)
  else if c = '"' then some (tokens, .string [])
  else if isWordChar c then some (tokens, .word [c])
  else (mark? c).map fun token => (token :: tokens, .between)

/-- One character further. The tokens so far are in reverse. -/
def step? (state : List Token × Lexing) (c : Char) : Option (List Token × Lexing) :=
  match state with
  | (tokens, .between) => startAt? tokens c
  | (tokens, .word read) =>
      if isWordChar c then some (tokens, .word (c :: read))
      else (ofWord? read.reverse).bind fun token => startAt? (token :: tokens) c
  | (tokens, .string read) =>
      if c = '"' then some (.string (String.ofList read.reverse) :: tokens, .between)
      else if c = '\\' then some (tokens, .escape read)
      else if c.toNat < 0x20 then none
      else some (tokens, .string (c :: read))
  | (tokens, .escape read) =>
      if c = 'u' then some (tokens, .codeUnit read none 4 0)
      else (unescape? c).map fun plain => (tokens, .string (plain :: read))
  | (tokens, .codeUnit read lead left value) =>
      (hexDigit? c).bind fun digit =>
        let value := 16 * value + digit
        if left ≤ 1 then (codeUnit? read lead value).map fun lexing => (tokens, lexing)
        else some (tokens, .codeUnit read lead (left - 1) value)
  | (tokens, .pair read lead) =>
      if c = '\\' then some (tokens, .pairMark read lead) else none
  | (tokens, .pairMark read lead) =>
      if c = 'u' then some (tokens, .codeUnit read (some lead) 4 0) else none

/-- The tokens of a text. -/
def ofText? (text : String) : Option (List Token) := do
  match ← text.toList.foldlM step? ([], .between) with
  | (tokens, .between) => return tokens.reverse
  | (tokens, .word read) => return ((← ofWord? read.reverse) :: tokens).reverse
  | _ => none

end Token

end ClassLowering.Json
