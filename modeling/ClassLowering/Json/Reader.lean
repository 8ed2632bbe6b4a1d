import ClassLowering.Json.Token

/-!
# Reading JSON texts

Tokens are put together by a machine that holds the containers which are still open, the innermost
first. Containers are nested at most `depthLimit - 1` deep.
-/

namespace ClassLowering.Json

/-- A container that is still open: its items in reverse, or its fields and the name of the next. -/
inductive OpenContainer where
  | array (items : List Json)
  | object (fields : List (String × Json)) (name : Option String)

/-- What may follow. -/
inductive Expectation where
  | value
  | valueOrClose
  | commaOrClose
  | nameOrClose
  | name
  | colon
  | finished (document : Json)

/-- The state of the reading machine. -/
structure Reading where
  containers : List OpenContainer := []
  expectation : Expectation := .value

namespace Reading

/-- Containers are nested less deep than this. -/
def depthLimit : Nat := 128

/-- A complete document goes into the innermost container, or ends the text. -/
def place (document : Json) : List OpenContainer → Option Reading
  | [] => some { expectation := .finished document }
  | .array items :: outer =>
      some { containers := .array (document :: items) :: outer, expectation := .commaOrClose }
  | .object fields (some name) :: outer =>
      some
        { containers := .object (setField fields name document) none :: outer
          expectation := .commaOrClose }
  | .object _ none :: _ => none

/-- A new container inside those that are open. -/
def enter (container : OpenContainer) (containers : List OpenContainer)
    (expectation : Expectation) : Option Reading :=
  if containers.length + 1 < depthLimit then
    some { containers := container :: containers, expectation }
  else none

/-- The start of a value. -/
def value? (containers : List OpenContainer) : Token → Option Reading
  | .scalar document => place document containers
  | .string text => place (.string text) containers
  | .openArray => enter (.array []) containers .valueOrClose
  | .openObject => enter (.object [] none) containers .nameOrClose
  | _ => none

/-- The end of the innermost container. -/
def close? : List OpenContainer → Token → Option Reading
  | .array items :: outer, .closeArray => place (.array items.reverse) outer
  | .object fields none :: outer, .closeObject => place (.object fields) outer
  | _, _ => none

/-- The name of a field. -/
def name? : List OpenContainer → Token → Option Reading
  | .object fields _ :: outer, .string name =>
      some { containers := .object fields (some name) :: outer, expectation := .colon }
  | _, _ => none

/-- One token further. -/
def step? (reading : Reading) (token : Token) : Option Reading :=
  let containers := reading.containers
  match reading.expectation with
  | .value => value? containers token
  | .valueOrClose => (close? containers token).or (value? containers token)
  | .nameOrClose => (close? containers token).or (name? containers token)
  | .name => name? containers token
  | .colon =>
      match token with
      | .colon => some { containers, expectation := .value }
      | _ => none
  | .commaOrClose =>
      match token, containers with
      | .comma, .array _ :: _ => some { containers, expectation := .value }
      | .comma, .object _ _ :: _ => some { containers, expectation := .name }
      | token, containers => close? containers token
  | .finished _ => none

end Reading

/-- The document a text is; `none` for a text that is no JSON. -/
def read? (text : String) : Option Json := do
  let reading ← (← Token.ofText? text).foldlM Reading.step? {}
  match reading.expectation with
  | .finished document => return document
  | _ => none

end ClassLowering.Json
