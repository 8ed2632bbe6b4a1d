import ClassLowering.Property.Table

/-!
# The order of own keys

The keys of an object are listed with array indices first, in ascending order, then the other
strings and then the symbols, each group in the order in which its keys were added.
-/

namespace ClassLowering

/-- Whether a key is a string that is no array index. -/
def PropertyKey.isPlainString (key : PropertyKey) : Bool :=
  key.string?.isSome && key.arrayIndex?.isNone

/-- Whether a key is a symbol. -/
def PropertyKey.isSymbol (key : PropertyKey) : Bool := key.string?.isNone

/-- Keys by group: indices ascending, strings, symbols. -/
def PropertyKey.inOrder (keys : List PropertyKey) : List PropertyKey :=
  ((keys.filterMap arrayIndex?).mergeSort fun first second => first ≤ second).map index ++
    keys.filter isPlainString ++ keys.filter isSymbol

namespace Table

/-- The own keys of an object in the order in which they are listed. -/
def orderedKeys (table : Table) : List PropertyKey := PropertyKey.inOrder table.keys

/-- The enumerable string keys in the order in which they are listed. -/
def enumerableStrings (table : Table) : List String :=
  table.orderedKeys.filterMap fun key =>
    match key, table.get? key with
    | .string text, some property => if property.enumerable then some text else none
    | _, _ => none

end Table

end ClassLowering
