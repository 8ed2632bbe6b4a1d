import ClassLowering.Heap.Basic
import ClassLowering.Number.Numeral
import ClassLowering.Text.Quoted

/-!
# Texts of values

The text that a value becomes in messages and as a property key, its type name, and its inspection.
Functions show the name they were made with, so all three depend on the heap.
-/

namespace ClassLowering.Heap

/-- The text of a value. -/
def text (heap : Heap) (value : Value) : String :=
  match value with
  | .undefined => "undefined"
  | .null => "null"
  | .boolean truth => if truth then "true" else "false"
  | .number x => Number.text x
  | .string text => text
  | .symbol sym => sym.text
  | .object id =>
      match (heap.object id).callable? with
      | some callable => "function " ++ callable.name ++ "() \x7b [native code] \x7d"
      | none => "[object Object]"

/-- The property key a value stands for: a symbol itself, and the text of everything else. -/
def key (heap : Heap) (value : Value) : PropertyKey :=
  match value with
  | .symbol sym => .symbol sym
  | value => .string (heap.text value)

/-- The type name of a value. -/
def typeOf (heap : Heap) (value : Value) : String :=
  match value with
  | .undefined => "undefined"
  | .null => "object"
  | .boolean _ => "boolean"
  | .number _ => "number"
  | .string _ => "string"
  | .symbol _ => "symbol"
  | .object _ => if heap.isCallable value then "function" else "object"

/-- The inspection of a value: its kind, and what it holds. -/
def inspect (heap : Heap) (value : Value) : String :=
  match value with
  | .undefined => "Undefined"
  | .null => "Null"
  | .boolean truth => if truth then "Boolean(true)" else "Boolean(false)"
  | .number x => "Number(" ++ Number.inspection x ++ ")"
  | .string text => "String(" ++ Text.quoted text ++ ")"
  | .symbol sym =>
      match sym.description with
      | some description => "Symbol(Some(" ++ Text.quoted description ++ "))"
      | none => "Symbol(None)"
  | .object id =>
      match (heap.object id).callable? with
      | some callable => "Function(" ++ callable.name ++ ")"
      | none => "Object"

@[simp] theorem key_toValue (heap : Heap) (key : PropertyKey) : heap.key key.toValue = key := by
  cases key <;> rfl

end ClassLowering.Heap
