import ClassLowering.Value

/-!
# Finding keys

A total order of property keys, by which they are found again in trees: strings come before symbols,
and symbols are ordered by serial number. Keys that compare as equal are equal. Nothing is ever listed
in this order.
-/

namespace ClassLowering

namespace Symbol

/-- Symbols by serial number, then by description. -/
def order : Symbol → Symbol → Ordering :=
  compareLex (compareOn serial) (compareOn description)

instance : Std.TransCmp order := by unfold order; infer_instance

instance : Std.LawfulEqCmp order where
  eq_of_compare {first second} equal := by
    simp only [order, compareLex_eq_eq, compareOn, Std.LawfulEqOrd.compare_eq_iff_eq] at equal
    cases first
    cases second
    simp_all

end Symbol

namespace PropertyKey

/-- Strings before symbols. -/
def order : PropertyKey → PropertyKey → Ordering
  | .string first, .string second => compare first second
  | .string _, .symbol _ => .lt
  | .symbol _, .string _ => .gt
  | .symbol first, .symbol second => first.order second

instance : Std.TransCmp order where
  eq_swap {first second} := by
    cases first <;> cases second
    · exact Std.OrientedOrd.eq_swap
    · rfl
    · rfl
    · exact @Std.OrientedCmp.eq_swap _ Symbol.order _ _ _
  isLE_trans {first second third} below above := by
    cases first <;> cases second <;> cases third <;> simp only [order] at *
    all_goals
      first
      | exact Std.TransOrd.isLE_trans below above
      | exact @Std.TransCmp.isLE_trans _ Symbol.order _ _ _ _ below above
      | contradiction
      | rfl

instance : Std.LawfulEqCmp order where
  compare_self {key} := by
    cases key
    · exact Std.ReflOrd.compare_self
    · exact @Std.ReflCmp.compare_self _ Symbol.order _ _
  eq_of_compare {first second} equal := by
    cases first <;> cases second <;> simp only [order] at equal
    · rw [Std.LawfulEqOrd.eq_of_compare equal]
    · contradiction
    · contradiction
    · rw [Std.LawfulEqCmp.eq_of_compare equal]

end PropertyKey

end ClassLowering
