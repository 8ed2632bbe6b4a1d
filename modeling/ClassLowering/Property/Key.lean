import ClassLowering.Value

/-!
# Array indices

An array index is a key that is the canonical decimal numeral of a number below `2 ^ 32 - 1`: no sign,
no leading zero. `arrayIndex?_eq_some_iff` says that `PropertyKey.arrayIndex?` reads back exactly
the keys that `PropertyKey.index` writes.
-/

namespace ClassLowering.PropertyKey

/-- The key of the element at a place in a list. -/
def index (place : Nat) : PropertyKey := .string (toString place)

/-- Array indices are the numbers below this one. -/
def arrayIndexLimit : Nat := UInt32.size - 1

/-- The array index whose numeral a key is. Numerals of more than ten digits are too large. -/
def arrayIndex? : PropertyKey → Option Nat
  | .string text =>
      if text.length ≤ 10 then
        let place := Nat.ofDigitChars 10 text.toList 0
        if place < arrayIndexLimit ∧ toString place = text then some place else none
      else none
  | .symbol _ => none

theorem arrayIndex?_eq_some_iff {key : PropertyKey} {place : Nat} :
    key.arrayIndex? = some place ↔ key = index place ∧ place < arrayIndexLimit := by
  constructor
  · intro read
    cases key with
    | symbol _ => simp [arrayIndex?] at read
    | string text =>
        unfold arrayIndex? at read
        dsimp only at read
        split at read
        · split at read
          · next canonical =>
            simp only [Option.some.injEq] at read
            subst read
            exact ⟨congrArg PropertyKey.string canonical.2.symm, canonical.1⟩
          · cases read
        · cases read
  · rintro ⟨rfl, bound⟩
    have short : (Nat.repr place).length ≤ 10 :=
      (Nat.length_repr_le_iff (by decide)).mpr
        (Nat.lt_trans bound (by decide))
    simp [index, arrayIndex?, short, bound]

theorem index_injective {first second : Nat} (same : index first = index second) :
    first = second := by
  have texts : Nat.repr first = Nat.repr second := by simpa [index] using same
  have digits := congrArg (fun text => Nat.ofDigitChars 10 (String.toList text) 0) texts
  simpa using digits

end ClassLowering.PropertyKey
