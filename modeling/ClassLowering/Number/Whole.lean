import ClassLowering.Number.Binary64

/-!
# Natural numbers as binary64 numbers

Lengths and counters become numbers, which are written bit by bit. Below `exactLimit` they are exact:
`ofFloat_ofNat` reads them back, and `integer?_ofNat` gives the natural number again. From there on they
are rounded, and lie above all smaller limits.
-/

namespace ClassLowering.Number

/-- The natural numbers that a significand holds to the unit are those below two to the fifty-third. -/
def exactLimit : Nat := 1 <<< 53

theorem exactLimit_eq : exactLimit = 9007199254740992 := rfl

/-- The bits of a natural number below the limit: its leading one is left out of the fraction. -/
def wordOfNat (n : Nat) : Nat :=
  if n = 0 then 0
  else (n.log2 + 1023) <<< 52 + (n <<< (52 - n.log2) - 1 <<< 52)

theorem significand_bounds {n : Nat} (positive : n ≠ 0) (small : n < exactLimit) :
    n.log2 ≤ 52 ∧ 1 <<< 52 ≤ n <<< (52 - n.log2) ∧ n <<< (52 - n.log2) < exactLimit := by
  have low := Nat.log2_self_le positive
  have high := Nat.lt_log2_self (n := n)
  have place : n.log2 ≤ 52 := by
    have := (Nat.log2_lt positive (k := 53)).mpr small
    omega
  have lowest := Nat.mul_le_mul_right (2 ^ (52 - n.log2)) low
  have highest := Nat.mul_lt_mul_of_pos_right high (Nat.two_pow_pos (52 - n.log2))
  rw [← Nat.pow_add, ← Nat.shiftLeft_eq] at lowest highest
  have whole : n.log2 + (52 - n.log2) = 52 := by omega
  have next : n.log2 + 1 + (52 - n.log2) = 53 := by omega
  rw [whole] at lowest
  rw [next] at highest
  exact ⟨place, lowest, highest⟩

theorem wordOfNat_fields {n : Nat} (positive : n ≠ 0) (small : n < exactLimit) :
    wordOfNat n >>> 63 = 0 ∧ (wordOfNat n >>> 52) % 2048 = n.log2 + 1023 ∧
      wordOfNat n % (1 <<< 52) = n <<< (52 - n.log2) - 1 <<< 52 := by
  obtain ⟨place, low, high⟩ := significand_bounds positive small
  unfold wordOfNat
  rw [if_neg positive]
  have unit : 1 <<< 52 = 4503599627370496 := rfl
  rw [exactLimit_eq] at high
  rw [unit] at low ⊢
  generalize n <<< (52 - n.log2) = significand at low high
  generalize n.log2 = exponent at place
  omega

theorem wordOfNat_lt {n : Nat} (small : n < exactLimit) : wordOfNat n < UInt64.size := by
  by_cases positive : n = 0
  · simp [wordOfNat, positive]
  · have := (wordOfNat_fields positive small).1
    unfold UInt64.size
    omega

theorem wordOfNat_exponent {n : Nat} (small : n < exactLimit) :
    (wordOfNat n >>> 52) % 2048 ≠ 2047 := by
  by_cases positive : n = 0
  · simp [wordOfNat, positive]
  · have := (wordOfNat_fields positive small).2.1
    have := (significand_bounds positive small).1
    omega

/-- The bits of a natural number from the limit on: its first fifty-three binary digits, rounded to the
nearest and in a tie to even, and infinity for what is too large. -/
def roundedWord (n : Nat) : Nat :=
  let dropped := n.log2 - 52
  let significand := n >>> dropped
  let rest := n % (1 <<< dropped)
  let half := 1 <<< (dropped - 1)
  let up := half < rest ∨ (rest = half ∧ significand % 2 = 1)
  min (2047 <<< 52)
    ((n.log2 + 1023) <<< 52 + (significand + (if up then 1 else 0) - 1 <<< 52))

theorem roundedWord_bounds {n : Nat} (large : exactLimit ≤ n) :
    1076 <<< 52 ≤ roundedWord n ∧ roundedWord n ≤ 2047 <<< 52 := by
  have positive : n ≠ 0 := by
    rintro rfl
    exact absurd large (by decide)
  have place : 53 ≤ n.log2 := (Nat.le_log2 positive).mpr large
  refine ⟨Nat.le_min.mpr ⟨by decide, ?_⟩, Nat.min_le_left ..⟩
  refine Nat.le_trans ?_ (Nat.le_add_right _ _)
  rw [Nat.shiftLeft_eq, Nat.shiftLeft_eq]
  exact Nat.mul_le_mul_right _ (by omega)

theorem roundedWord_toNat {n : Nat} (large : exactLimit ≤ n) :
    (UInt64.ofNat (roundedWord n)).toNat = roundedWord n := by
  have bound : roundedWord n < UInt64.size :=
    Nat.lt_of_le_of_lt (roundedWord_bounds large).2 (by decide)
  rw [UInt64.toNat_ofNat', Nat.mod_eq_of_lt bound]

/-- Bits that stand for a number or an infinity. -/
theorem valid_of_word (bits : UInt64)
    (infinite : (bits.toNat >>> 52) % 2048 = 2047 → bits.toNat % (1 <<< 52) = 0) :
    Float.Model.Format.binary64.Valid bits.toBitVec := by
  constructor
  intro ones fraction
  have exponent := congrArg BitVec.toNat ones
  simp only [Float.Model.UnpackedFloat.unpackExponent, Float.Model.Format.binary64] at exponent
  have zero := infinite (by simpa using exponent)
  apply absurd (BitVec.eq_of_toNat_eq ?_) fraction
  simpa [Float.Model.UnpackedFloat.unpackMantissa] using zero

/-- A natural number as a number; exact below the limit. -/
def ofNat (n : Nat) : Float :=
  if small : n < exactLimit then
    .ofModel
      { toBits := UInt64.ofNat (wordOfNat n)
        valid := valid_of_word _ (by
          rw [UInt64.toNat_ofNat', Nat.mod_eq_of_lt (wordOfNat_lt small)]
          exact fun ones => absurd ones (wordOfNat_exponent small)) }
  else
    .ofModel
      { toBits := UInt64.ofNat (roundedWord n)
        valid := valid_of_word _ (by
          have bounds := roundedWord_bounds (Nat.le_of_not_lt small)
          have unit : 1 <<< 52 = 4503599627370496 := rfl
          rw [roundedWord_toNat (Nat.le_of_not_lt small), Nat.shiftRight_eq_div_pow, unit]
          omega) }

theorem ofFloat_ofNat {n : Nat} (positive : n ≠ 0) (small : n < exactLimit) :
    Binary64.ofFloat (ofNat n) =
      .finite false (n <<< (52 - n.log2)) ((n.log2 : Int) - 52) := by
  obtain ⟨place, low, high⟩ := significand_bounds positive small
  obtain ⟨sign, biased, fraction⟩ := wordOfNat_fields positive small
  have word : (ofNat n).toBits = UInt64.ofNat (wordOfNat n) := by
    unfold ofNat
    rw [dif_pos small]
    rfl
  have wordNat : (UInt64.ofNat (wordOfNat n)).toNat = wordOfNat n := by
    rw [UInt64.toNat_ofNat', Nat.mod_eq_of_lt (wordOfNat_lt small)]
  unfold Binary64.ofFloat Binary64.ofBits
  dsimp only
  rw [word, wordNat, sign, biased, fraction]
  have finite : n.log2 + 1023 ≠ 2047 := by omega
  have normal : n.log2 + 1023 ≠ 0 := by omega
  have significand : 1 <<< 52 + (n <<< (52 - n.log2) - 1 <<< 52) = n <<< (52 - n.log2) :=
    Nat.add_sub_cancel' low
  have exponent : ((n.log2 + 1023 : Nat) : Int) - 1075 = (n.log2 : Int) - 52 := by omega
  rw [if_neg finite, if_neg normal, significand, exponent]
  rfl

/-- A length is an integer. -/
theorem integer?_ofNat {n : Nat} (small : n < exactLimit) :
    (Binary64.ofFloat (ofNat n)).integer? = some (n : Int) := by
  by_cases positive : n = 0
  · subst positive
    decide
  · rw [ofFloat_ofNat positive small]
    have place := (significand_bounds positive small).1
    unfold Binary64.integer?
    by_cases full : n.log2 = 52
    · simp [full]
    · have below : ¬ (0 : Int) ≤ (n.log2 : Int) - 52 := by omega
      have shift : (-((n.log2 : Int) - 52)).toNat = 52 - n.log2 := by omega
      simp only [below, if_false, shift, Nat.shiftLeft_eq, Nat.one_mul, Nat.mul_mod_left, if_true,
        Nat.mul_div_cancel _ (Nat.two_pow_pos _), Bool.false_eq_true]

/-- A length from the limit on lies above all smaller limits. -/
theorem exceeds_ofNat_of_le {n limit : Nat} (large : exactLimit ≤ n) (small : limit < exactLimit) :
    (Binary64.ofFloat (ofNat n)).exceeds limit = true := by
  have word : (ofNat n).toBits = UInt64.ofNat (roundedWord n) := by
    unfold ofNat
    rw [dif_neg (Nat.not_lt.mpr large)]
    rfl
  obtain ⟨low, high⟩ := roundedWord_bounds large
  unfold Binary64.ofFloat Binary64.ofBits
  dsimp only
  rw [word, roundedWord_toNat large, Nat.shiftRight_eq_div_pow, Nat.shiftRight_eq_div_pow]
  generalize roundedWord n = bits at low high
  have positive : bits / 2 ^ 63 ≠ 1 := by omega
  have normal : bits / 2 ^ 52 % 2048 ≠ 0 := by omega
  rw [decide_eq_false positive, if_neg normal]
  split
  · next ones =>
    have unit : 1 <<< 52 = 4503599627370496 := rfl
    have fraction : bits % (1 <<< 52) = 0 := by
      rw [unit]
      omega
    rw [if_pos fraction]
    rfl
  · have exponent : (1 : Int) ≤ ((bits / 2 ^ 52 % 2048 : Nat) : Int) - 1075 := by omega
    unfold Binary64.exceeds
    dsimp only
    rw [if_pos (Int.le_trans Int.one_nonneg exponent), decide_eq_true_iff]
    refine Nat.lt_of_lt_of_le small ?_
    rw [Nat.shiftLeft_eq, exactLimit, Nat.shiftLeft_eq, Nat.pow_succ, Nat.one_mul]
    refine Nat.mul_le_mul (Nat.le_add_right _ _) ?_
    exact Nat.le_self_pow (by omega) 2

end ClassLowering.Number
