import RoadSketch.Proofs.DoubleSums

/-!
# Rounding doubles

What holds of every format, for the one of doubles: their mantissas have 53 bits, and their
exponents lie in -1074 to 971. A quotient and a sum are rounded like a product, from as many digits
of them as that takes.

## Main results

- `exists_unpack_mul`, `exists_unpack_div` and `exists_unpack_add`: a product, a quotient and a sum
  are stored as numbers close to them, or as infinite ones.
-/
namespace RoadSketch.Double

open Float.Model (Format UnpackedFloat totalExponent)
open Float.Model.UnpackedFloat
open FloatFormat (Holds ofParts magnitude magnitude_zero holds_exact holds_quotient
  unpack_pack_infinity unpack_pack_zero)

/-! ### Rounding -/

theorem targetExponent_eq (mantissa : Nat) (exponent : Int) :
    Format.binary64.targetExponent (totalExponent mantissa exponent) =
      max (mantissa.log2 + exponent - 52) (-1074) :=
  FloatFormat.targetExponent_eq .binary64 mantissa exponent

/-- There are enough digits, so no digit has to be made up to reach the mantissa of a double. -/
def HasDigits (mantissa : Nat) (exponent : Int) : Prop :=
  exponent ≤ max (mantissa.log2 + exponent - 52 : Int) (-1074)

theorem hasDigits_of_le {mantissa : Nat} (long : 2 ^ 52 ≤ mantissa) (exponent : Int) :
    HasDigits mantissa exponent := by
  have digits : 52 ≤ mantissa.log2 := (Nat.le_log2 (by omega)).mpr long
  unfold HasDigits
  omega

theorem hasDigits_mul {mantissa factor : Nat} {exponent unit : Int} (positive : 0 < mantissa)
    (long : 2 ^ 52 ≤ factor) : HasDigits (mantissa * factor) (exponent + unit) :=
  hasDigits_of_le (long.trans (Nat.le_mul_of_pos_left _ positive)) _

/-- What rounding makes of a number: the result can be stored, and is off by half a unit at most. -/
theorem exists_roundWithAccuracy {mantissa : Nat} {exponent : Int} {accuracy : Accuracy} {w : ℚ}
    (sign : Sign)
    (stands : Holds (.ofMantissaAndAccuracy mantissa accuracy) (w / 2 ^ exponent))
    (digits : HasDigits mantissa exponent) :
    ∃ rounded unit, IsStored rounded unit ∧ |magnitude rounded unit - w| ≤ 2 ^ unit / 2 ∧
      roundWithAccuracy .binary64 sign mantissa exponent accuracy = ofParts sign rounded unit := by
  have enough : FloatFormat.HasDigits .binary64 mantissa exponent := digits
  obtain ⟨rounded, unit, stored, near, result⟩ :=
    FloatFormat.exists_roundWithAccuracy sign stands enough
  exact ⟨rounded, unit, isStored_iff.mp stored, near, result⟩

/-! ### Storing -/

/-- What is left of a double once it is stored: numbers that are too large become infinite. -/
def settle : UnpackedFloat → UnpackedFloat
  | .finite sign mantissa exponent positive =>
    if 971 < exponent then .infinity sign else .finite sign mantissa exponent positive
  | u => u

theorem settle_ofParts_eq (sign : Sign) (mantissa : Nat) (exponent : Int) :
    settle (ofParts sign mantissa exponent) = if h : mantissa = 0 then .zero sign
      else if 971 < exponent then .infinity sign
      else .finite sign mantissa exponent (Nat.pos_of_ne_zero h) := by
  unfold ofParts
  split <;> rfl

theorem settle_ofParts {sign : Sign} {mantissa : Nat} {exponent : Int} (small : exponent ≤ 971) :
    settle (ofParts sign mantissa exponent) = ofParts sign mantissa exponent := by
  unfold ofParts
  split
  · rfl
  · exact if_neg (by omega)

theorem settle_eq (u : UnpackedFloat) : FloatFormat.settle .binary64 u = settle u := by
  cases u <;> rfl

/-- What is left of a rounded result once it is stored. -/
theorem unpack_pack_ofParts {mantissa : Nat} {exponent : Int} (stored : IsStored mantissa exponent)
    (sign : Sign) :
    unpack .binary64 (pack .binary64 (ofParts sign mantissa exponent)) =
      settle (ofParts sign mantissa exponent) := by
  rw [← settle_eq]
  exact FloatFormat.unpack_pack_ofParts (isStored_iff.mpr stored) sign

theorem unpack_neg {x : Float} {sign : Sign} {mantissa : Nat} {exponent : Int}
    (stored : IsStored mantissa exponent)
    (unpacked : x.toModel.unpack = ofParts sign mantissa exponent) :
    (-x).toModel.unpack = settle (ofParts (-sign) mantissa exponent) := by
  have negated : (-x).toModel.unpack =
      unpack .binary64 (pack .binary64 (UnpackedFloat.neg x.toModel.unpack)) := rfl
  have flipped : UnpackedFloat.neg (ofParts sign mantissa exponent) =
      ofParts (-sign) mantissa exponent := by
    unfold ofParts
    split <;> rfl
  rw [negated, unpacked, flipped, unpack_pack_ofParts stored]

/-! ### Products and quotients -/

section
variable {sign sign' : Sign} {mantissa mantissa' : Nat} {exponent exponent' : Int}

theorem isStored_zero : IsStored 0 (-1074) := ⟨by decide, le_rfl, .inr rfl⟩

theorem exists_pack_mul (sign sign' : Sign) (positive : 0 < mantissa')
    (digits : HasDigits (mantissa * mantissa') (exponent + exponent')) :
    ∃ rounded unit, IsStored rounded unit ∧
      |magnitude rounded unit - magnitude mantissa exponent * magnitude mantissa' exponent'| ≤
        2 ^ unit / 2 ∧
      unpack .binary64 (pack .binary64 (UnpackedFloat.mul .binary64 (ofParts sign mantissa exponent)
        (.finite sign' mantissa' exponent' positive))) =
          settle (ofParts (sign * sign') rounded unit) := by
  have enough : FloatFormat.HasDigits .binary64 (mantissa * mantissa') (exponent + exponent') :=
    digits
  obtain ⟨rounded, unit, stored, near, result⟩ :=
    FloatFormat.exists_pack_mul sign sign' positive enough
  exact ⟨rounded, unit, isStored_iff.mp stored, near, result.trans (settle_eq _)⟩

/-- A product is stored as what its exact value is rounded to. -/
theorem exists_unpack_mul {x y : Float} {positive : 0 < mantissa'}
    (left : x.toModel.unpack = ofParts sign mantissa exponent)
    (right : y.toModel.unpack = .finite sign' mantissa' exponent' positive)
    (digits : HasDigits (mantissa * mantissa') (exponent + exponent')) :
    ∃ rounded unit, IsStored rounded unit ∧
      |magnitude rounded unit - magnitude mantissa exponent * magnitude mantissa' exponent'| ≤
        2 ^ unit / 2 ∧
      (x * y).toModel.unpack = settle (ofParts (sign * sign') rounded unit) := by
  have product : (x * y).toModel.unpack = unpack .binary64 (pack .binary64
      (UnpackedFloat.mul .binary64 x.toModel.unpack y.toModel.unpack)) := rfl
  rw [product, left, right]
  exact exists_pack_mul sign sign' positive digits

/-- By a factor that has all digits of a mantissa, every double is multiplied like that. -/
theorem exists_unpack_mul_factor {x y : Float} {positive : 0 < mantissa'}
    (stored : IsStored mantissa exponent)
    (left : x.toModel.unpack = ofParts sign mantissa exponent)
    (right : y.toModel.unpack = .finite .positive mantissa' exponent' positive)
    (long : 2 ^ 52 ≤ mantissa') (low : exponent' ≤ 0) :
    ∃ rounded unit, IsStored rounded unit ∧
      |magnitude rounded unit - magnitude mantissa exponent * magnitude mantissa' exponent'| ≤
        2 ^ unit / 2 ∧
      (x * y).toModel.unpack = settle (ofParts sign rounded unit) := by
  have digits : HasDigits (mantissa * mantissa') (exponent + exponent') := by
    rcases Nat.eq_zero_or_pos mantissa with zero | some
    · have least := stored.leading
      unfold HasDigits
      omega
    · exact hasDigits_mul some long
  have same : sign * .positive = sign := by cases sign <;> rfl
  have product := exists_unpack_mul left right digits
  rwa [same] at product

/-- A division shifts the dividend until the quotient has as many digits as a mantissa needs. -/
theorem exists_divCore (some : 0 < mantissa) (positive : 0 < mantissa') (exponent exponent' : Int) :
    ∃ (unit : Int) (n : Nat), exponent - exponent' = unit + n ∧
      HasDigits (mantissa * 2 ^ n / mantissa') unit ∧
      divCore .binary64 mantissa exponent mantissa' exponent' =
        (mantissa * 2 ^ n / mantissa', unit,
          accuracyOfFraction (mantissa * 2 ^ n % mantissa') mantissa') := by
  obtain ⟨unit, named⟩ : ∃ unit, unit = min (exponent - exponent')
      (max (mantissa.log2 + 1 + exponent - (mantissa'.log2 + 1 + exponent') - 53 : Int) (-1074)) :=
    ⟨_, rfl⟩
  obtain ⟨n, amount⟩ : ∃ n : Nat, exponent - exponent' = unit + n :=
    ⟨(exponent - exponent' - unit).toNat, by omega⟩
  refine ⟨unit, n, amount, ?_, ?_⟩
  · by_cases least : unit ≤ -1074
    · unfold HasDigits
      omega
    · -- The dividend has 53 digits more than the divisor by now.
      have longer : mantissa'.log2 + 53 ≤ mantissa.log2 + n := by omega
      have enough : 2 ^ 52 ≤ mantissa * 2 ^ n / mantissa' := by
        rw [Nat.le_div_iff_mul_le positive]
        calc 2 ^ 52 * mantissa' ≤ 2 ^ 52 * 2 ^ (mantissa'.log2 + 1) :=
              Nat.mul_le_mul_left _ Nat.lt_log2_self.le
          _ = 2 ^ (mantissa'.log2 + 53) := by rw [← Nat.pow_add]; congr 1; omega
          _ ≤ 2 ^ (mantissa.log2 + n) := Nat.pow_le_pow_right two_pos longer
          _ = 2 ^ mantissa.log2 * 2 ^ n := Nat.pow_add _ _ _
          _ ≤ mantissa * 2 ^ n := Nat.mul_le_mul_right _ (Nat.log2_self_le some.ne')
      exact hasDigits_of_le enough unit
  · have target : Format.binary64.targetExponent
        (totalExponent mantissa exponent - totalExponent mantissa' exponent') =
        max (mantissa.log2 + 1 + exponent - (mantissa'.log2 + 1 + exponent') - 53 : Int) (-1074) :=
      rfl
    have shift : (exponent - exponent' - unit).toNat = n := by omega
    simp only [divCore, target, ← named, shift, Nat.shiftLeft_eq]

/-- A quotient is stored as what its exact value is rounded to. -/
theorem exists_unpack_div {x y : Float} {positive : 0 < mantissa'}
    (left : x.toModel.unpack = ofParts sign mantissa exponent)
    (right : y.toModel.unpack = .finite sign' mantissa' exponent' positive) :
    ∃ rounded unit, IsStored rounded unit ∧
      |magnitude rounded unit - magnitude mantissa exponent / magnitude mantissa' exponent'| ≤
        2 ^ unit / 2 ∧
      (x / y).toModel.unpack = settle (ofParts (sign / sign') rounded unit) := by
  have quotient : (x / y).toModel.unpack = unpack .binary64 (pack .binary64
      (UnpackedFloat.div .binary64 x.toModel.unpack y.toModel.unpack)) := rfl
  rw [quotient, left, right]
  by_cases zero : mantissa = 0
  · refine ⟨0, -1074, isStored_zero, by simp [zero, magnitude_zero]; positivity, ?_⟩
    simp only [ofParts, zero, dite_true]
    exact unpack_pack_zero _
  · obtain ⟨unit, n, amount, digits, core⟩ :=
      exists_divCore (Nat.pos_of_ne_zero zero) positive exponent exponent'
    have holds : Holds (.ofMantissaAndAccuracy (mantissa * 2 ^ n / mantissa')
          (accuracyOfFraction (mantissa * 2 ^ n % mantissa') mantissa'))
        (magnitude mantissa exponent / magnitude mantissa' exponent' / 2 ^ unit) := by
      convert holds_quotient (mantissa * 2 ^ n) positive using 1
      have split : (2 : ℚ) ^ exponent = 2 ^ exponent' * 2 ^ unit * 2 ^ n := by
        rw [← zpow_natCast, ← zpow_add₀ two_ne_zero, ← zpow_add₀ two_ne_zero]
        congr 1
        omega
      rw [magnitude, magnitude, split]
      push_cast
      field_simp
    obtain ⟨rounded, unit, stored, near, result⟩ :=
      exists_roundWithAccuracy (sign / sign') holds digits
    refine ⟨rounded, unit, stored, near, ?_⟩
    rw [ofParts, dif_neg zero, UnpackedFloat.div, core]
    dsimp only
    rw [result]
    exact unpack_pack_ofParts stored _

end

/-! ### Whole numbers and powers of ten -/

/-- A whole number times a power of ten, as the nearest double. -/
theorem exists_unpack_ofScientific {m k : Nat} (positive : 0 < m) (large : ¬(m < 2 ^ 53 ∧ k ≤ 22))
    (small : k ≤ 2048) :
    ∃ rounded unit, IsStored rounded unit ∧
      |magnitude rounded unit - m * 10 ^ k| ≤ 2 ^ unit / 2 ∧
      (Float.ofScientific m false k).toModel.unpack = settle (ofParts .positive rounded unit) := by
  -- Both factors are named, so that nothing computes with numbers of a thousand digits.
  obtain ⟨shifted, named⟩ : ∃ shifted, shifted = m <<< 53 := ⟨_, rfl⟩
  obtain ⟨power, raised⟩ : ∃ power, power = 10 ^ k := ⟨_, rfl⟩
  have some : 0 < power := by rw [raised]; positivity
  have long : 2 ^ 52 ≤ shifted := by
    rw [named, Nat.shiftLeft_eq]
    omega
  have unpacked : (Float.ofScientific m false k).toModel.unpack =
      unpack .binary64 (pack .binary64 (UnpackedFloat.mul .binary64
        (ofParts .positive shifted (-53)) (.finite .positive power 0 some))) := by
    have scientific : (Float.ofScientific m false k).toModel.unpack =
        unpack .binary64 (pack .binary64 (UnpackedFloat.ofScientific .binary64 m k)) := by
      rw [Float.ofScientific, dif_neg large]
      rfl
    have reach : (2 : Int) ^ Format.binary64.exponentBits = 2048 := by decide
    rw [scientific, UnpackedFloat.ofScientific, dif_neg positive.ne', reach, if_neg (by omega),
      if_neg (by omega), if_pos (by omega), ofParts, dif_neg (by omega)]
    subst shifted power
    rfl
  have digits : HasDigits (shifted * power) (-53 + 0) :=
    hasDigits_of_le (long.trans (Nat.le_mul_of_pos_right _ some)) _
  obtain ⟨rounded, unit, stored, near, result⟩ := exists_pack_mul .positive .positive some digits
  have value : magnitude shifted (-53) * magnitude power 0 = m * 10 ^ k := by
    rw [magnitude, magnitude, named, raised, Nat.shiftLeft_eq]
    push_cast
    norm_num
    field_simp
  rw [value] at near
  exact ⟨rounded, unit, stored, near, unpacked.trans result⟩

/-! ### Sums -/

section
variable {mantissa mantissa' : Nat} {exponent exponent' : Int}

/-- Shifting digits does not change what they stand for. -/
theorem magnitude_shiftLeft (mantissa n : Nat) (exponent : Int) :
    magnitude (mantissa <<< n) (exponent - n) = magnitude mantissa exponent := by
  rw [magnitude, magnitude, Nat.shiftLeft_eq, zpow_sub₀ two_ne_zero, zpow_natCast]
  push_cast
  field_simp

/-- The number with a sign, a mantissa and an exponent. -/
def amount (sign : Sign) (mantissa : Nat) (exponent : Int) : ℚ := sign.apply mantissa * 2 ^ exponent

theorem amount_zero (sign : Sign) (exponent : Int) : amount sign 0 exponent = 0 := by
  cases sign <;> simp [amount, Sign.apply]

theorem amount_negative (mantissa : Nat) (exponent : Int) :
    amount .negative mantissa exponent = -magnitude mantissa exponent := by
  simp [amount, magnitude, Sign.apply]

theorem amount_shiftLeft (sign : Sign) (mantissa n : Nat) (exponent : Int) :
    amount sign (mantissa <<< n) (exponent - n) = amount sign mantissa exponent := by
  have shifted := magnitude_shiftLeft mantissa n exponent
  cases sign
  · rw [amount_negative, amount_negative, shifted]
  · exact shifted

/-- Before a sum is rounded, it is shifted until it has as many digits as a mantissa needs. -/
theorem exists_round (sign : Sign) (some : 0 < mantissa) (exponent : Int) :
    ∃ rounded unit, IsStored rounded unit ∧
      |magnitude rounded unit - magnitude mantissa exponent| ≤ 2 ^ unit / 2 ∧
      UnpackedFloat.round .binary64 sign mantissa exponent = ofParts sign rounded unit := by
  obtain ⟨n, named⟩ : ∃ n, n = (exponent - Format.binary64.targetExponent
    (totalExponent mantissa exponent)).toNat := ⟨_, rfl⟩
  have amount := named
  rw [targetExponent_eq] at amount
  have digits : HasDigits (mantissa <<< n) (exponent - n) := by
    have longer : (mantissa <<< n).log2 = n + mantissa.log2 := by
      rw [Nat.shiftLeft_eq, Nat.mul_comm, log2_two_pow_mul n some]
    unfold HasDigits
    omega
  have exact : Holds (.ofMantissaAndAccuracy (mantissa <<< n) .exact)
      (magnitude mantissa exponent / 2 ^ (exponent - n)) := by
    rw [← magnitude_shiftLeft mantissa n, magnitude, mul_div_cancel_right₀ _ (by positivity)]
    exact holds_exact _
  obtain ⟨rounded, unit, stored, near, result⟩ := exists_roundWithAccuracy sign exact digits
  refine ⟨rounded, unit, stored, near, ?_⟩
  rw [← result, named]
  rfl

/-- A sum is rounded under its own sign. -/
theorem exists_normalize (total : ℤ) (least : Int) :
    ∃ sign rounded unit, IsStored rounded unit ∧
      |amount sign rounded unit - total * 2 ^ least| ≤ 2 ^ unit / 2 ∧
      UnpackedFloat.normalize .binary64 total least .positive = ofParts sign rounded unit := by
  rcases lt_trichotomy total 0 with below | rfl | above
  · obtain ⟨rounded, unit, stored, near, result⟩ :=
      exists_round .negative (show 0 < (-total).toNat by omega) least
    have size : (((-total).toNat : ℕ) : ℚ) = -total := by
      exact_mod_cast Int.toNat_of_nonneg (show 0 ≤ -total by omega)
    refine ⟨.negative, rounded, unit, stored, ?_, ?_⟩
    · have opposite : -magnitude rounded unit - total * 2 ^ least =
          -(magnitude rounded unit - magnitude (-total).toNat least) := by
        rw [magnitude, magnitude, size]
        ring
      rwa [amount_negative, opposite, abs_neg]
    · rw [← result, UnpackedFloat.normalize, compare_lt_iff_lt.mpr below]
  · exact ⟨.positive, 0, -1074, isStored_zero, by simp [amount_zero]; positivity, rfl⟩
  · obtain ⟨rounded, unit, stored, near, result⟩ :=
      exists_round .positive (show 0 < total.toNat by omega) least
    have size : ((total.toNat : ℕ) : ℚ) = total := by
      exact_mod_cast Int.toNat_of_nonneg above.le
    refine ⟨.positive, rounded, unit, stored, ?_, ?_⟩
    · rw [magnitude, magnitude, size] at near
      exact near
    · rw [← result, UnpackedFloat.normalize, compare_gt_iff_gt.mpr above]

/-- Both mantissas are shifted to the smaller exponent, where they are added without loss. -/
theorem exists_add (sign sign' : Sign) (some : 0 < mantissa) (positive : 0 < mantissa')
    (exponent exponent' : Int) :
    ∃ (total : ℤ) (least : Int),
      total * 2 ^ least = amount sign mantissa exponent + amount sign' mantissa' exponent' ∧
      UnpackedFloat.add .binary64 (.finite sign mantissa exponent some)
          (.finite sign' mantissa' exponent' positive) =
        UnpackedFloat.normalize .binary64 total least .positive := by
  obtain ⟨least, named⟩ : ∃ least, least = min exponent exponent' := ⟨_, rfl⟩
  obtain ⟨n, shift⟩ : ∃ n : Nat, exponent - n = least := ⟨(exponent - least).toNat, by omega⟩
  obtain ⟨n', shift'⟩ : ∃ n' : Nat, exponent' - n' = least := ⟨(exponent' - least).toNat, by omega⟩
  have count : (exponent - least).toNat = n := by omega
  have count' : (exponent' - least).toNat = n' := by omega
  refine ⟨sign.apply (mantissa <<< n : ℕ) + sign'.apply (mantissa' <<< n' : ℕ), least, ?_, ?_⟩
  · rw [← amount_shiftLeft sign mantissa n, ← amount_shiftLeft sign' mantissa' n', shift, shift',
      amount, amount]
    push_cast
    ring
  · simp only [UnpackedFloat.add, decreaseExponent, ← named, count, count']

/-- A sum is stored as what its exact value is rounded to. -/
theorem exists_unpack_add {x y : Float} {sign sign' : Sign} {positive : 0 < mantissa'}
    (left : x.toModel.unpack = ofParts sign mantissa exponent)
    (right : y.toModel.unpack = .finite sign' mantissa' exponent' positive) :
    ∃ side rounded unit, IsStored rounded unit ∧
      |amount side rounded unit - (amount sign mantissa exponent + amount sign' mantissa' exponent')| ≤
        2 ^ unit / 2 ∧
      (x + y).toModel.unpack = settle (ofParts side rounded unit) := by
  have sum : (x + y).toModel.unpack = unpack .binary64 (pack .binary64
      (UnpackedFloat.add .binary64 x.toModel.unpack y.toModel.unpack)) := rfl
  rw [left, right] at sum
  by_cases zero : mantissa = 0
  · have stored := isStored_of_unpack right
    refine ⟨sign', mantissa', exponent', stored, ?_, ?_⟩
    · simp only [zero, amount_zero, zero_add, sub_eq_zero_of_eq, abs_zero]
      positivity
    · have nothing : UnpackedFloat.add .binary64 (ofParts sign mantissa exponent)
          (.finite sign' mantissa' exponent' positive) = ofParts sign' mantissa' exponent' := by
        rw [ofParts, dif_pos zero, ofParts, dif_neg positive.ne']
        rfl
      rw [sum, nothing, unpack_pack_ofParts stored]
  · obtain ⟨total, least, value, added⟩ :=
      exists_add sign sign' (Nat.pos_of_ne_zero zero) positive exponent exponent'
    obtain ⟨side, rounded, unit, stored, near, result⟩ := exists_normalize total least
    rw [value] at near
    refine ⟨side, rounded, unit, stored, near, ?_⟩
    rw [sum, ofParts, dif_neg zero, added, result, unpack_pack_ofParts stored]

end

end RoadSketch.Double
