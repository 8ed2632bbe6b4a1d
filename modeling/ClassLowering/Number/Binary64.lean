/-!
# What a binary64 number denotes

Numbers are stored as `Float`. This module reads one as an exact value: not a number, an infinity,
or a signed significand times a power of two. Everything that depends on the exact value of a
number (its text, its truth value, its use as a length) goes through this reading, in `Nat`.
-/

namespace ClassLowering

/-- The exact value of a binary64 number. A finite one is `± significand * 2 ^ exponent`. -/
inductive Binary64 where
  | notANumber
  | infinite (negative : Bool)
  | finite (negative : Bool) (significand : Nat) (exponent : Int)
  deriving DecidableEq, Repr

namespace Binary64

/-- Reads the three fields of a 64-bit pattern: sign, biased exponent and fraction. -/
def ofBits (bits : UInt64) : Binary64 :=
  let word := bits.toNat
  let negative := decide (word >>> 63 = 1)
  let biased : Nat := (word >>> 52) % 2048
  let fraction : Nat := word % (1 <<< 52)
  if biased = 2047 then
    if fraction = 0 then .infinite negative else .notANumber
  else if biased = 0 then .finite negative fraction (-1074)
  else .finite negative (1 <<< 52 + fraction) ((biased : Int) - 1075)

/-- The value of a number. -/
def ofFloat (x : Float) : Binary64 := ofBits x.toBits

/-- The integer a finite value equals, if it is one. -/
def integer? : Binary64 → Option Int
  | .finite negative significand exponent =>
      let signed (magnitude : Nat) : Int := if negative then -magnitude else magnitude
      if 0 ≤ exponent then some (signed (significand <<< exponent.toNat))
      else
        let scale := 1 <<< (-exponent).toNat
        if significand % scale = 0 then some (signed (significand / scale)) else none
  | _ => none

/-- Neither zero nor undefined: what a condition takes for true. -/
def isTruthy : Binary64 → Bool
  | .notANumber => false
  | .infinite _ => true
  | .finite _ significand _ => significand != 0

/-- The whole part of a positive finite value; zero for everything that is not above zero. An
infinity has no whole part. -/
def wholePart? : Binary64 → Option Nat
  | .finite false significand exponent =>
      if 0 ≤ exponent then some (significand <<< exponent.toNat)
      else some (significand >>> (-exponent).toNat)
  | .infinite false => none
  | _ => some 0

/-- Whether the value lies above a natural number. -/
def exceeds (limit : Nat) : Binary64 → Bool
  | .finite false significand exponent =>
      if 0 ≤ exponent then limit < significand <<< exponent.toNat
      else limit <<< (-exponent).toNat < significand
  | .infinite false => true
  | _ => false

/-! ## Integers -/

variable {value : Binary64} {integer : Int}

/-- An integer has a sign and a magnitude, and its significand is the magnitude, shifted. -/
theorem shifted_of_integer? {negative : Bool} {significand : Nat} {exponent : Int}
    (equals : (finite negative significand exponent).integer? = some integer) :
    ∃ magnitude : Nat, integer = (if negative then -(magnitude : Int) else magnitude) ∧
      if 0 ≤ exponent then magnitude = significand <<< exponent.toNat
      else significand = magnitude <<< (-exponent).toNat := by
  by_cases up : 0 ≤ exponent
  · rw [integer?, if_pos up] at equals
    exact ⟨_, (Option.some.inj equals).symm, (if_pos up).mpr rfl⟩
  · by_cases divides : significand % (1 <<< (-exponent).toNat) = 0
    · rw [integer?, if_neg up, if_pos divides] at equals
      refine ⟨_, (Option.some.inj equals).symm, (if_neg up).mpr ?_⟩
      rw [Nat.one_shiftLeft] at divides ⊢
      rw [Nat.shiftLeft_eq, Nat.div_mul_cancel (Nat.dvd_of_mod_eq_zero divides)]
    · rw [integer?, if_neg up, if_neg divides] at equals
      cases equals

/-- The whole part of an integer is the integer, unless it is negative. -/
theorem wholePart?_of_integer? (equals : value.integer? = some integer) :
    value.wholePart? = some integer.toNat := by
  match value with
  | .finite negative significand exponent =>
      obtain ⟨magnitude, rfl, shifted⟩ := shifted_of_integer? equals
      cases negative with
      | true => exact congrArg some (Int.toNat_neg_natCast magnitude).symm
      | false =>
          rw [wholePart?]
          split at shifted
          · next up => rw [if_pos up, ← shifted]; rfl
          · next down =>
              rw [if_neg down, shifted, Nat.shiftRight_eq_div_pow, Nat.shiftLeft_eq,
                Nat.mul_div_cancel _ (Nat.two_pow_pos _)]
              rfl

/-- An integer lies above a natural number as integers do. -/
theorem exceeds_of_integer? (equals : value.integer? = some integer) (limit : Nat) :
    value.exceeds limit = decide ((limit : Int) < integer) := by
  match value with
  | .finite negative significand exponent =>
      obtain ⟨magnitude, rfl, shifted⟩ := shifted_of_integer? equals
      cases negative with
      | true =>
          refine (decide_eq_false ?_).symm
          simp only [if_true]
          omega
      | false =>
          rw [exceeds]
          split at shifted
          · next up => simp only [if_pos up, ← shifted, Bool.false_eq_true, if_false, Int.ofNat_lt]
          · next down =>
              simp only [if_neg down, shifted, Nat.shiftLeft_eq, Bool.false_eq_true, if_false, Int.ofNat_lt,
                Nat.mul_lt_mul_right (Nat.two_pow_pos _)]

end Binary64

end ClassLowering
