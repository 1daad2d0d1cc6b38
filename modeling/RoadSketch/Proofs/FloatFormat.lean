import Mathlib
import RoadSketch.Number.Binary

/-!
# Formats of binary floating point

The exact result of an operation on floating point numbers is brought to a mantissa and an exponent
that can be stored. Two bits beside the mantissa say where the exact result lies above it; they
survive every shift, so the mantissa that is kept in the end is off by half a unit at most. All of
this is the same in every format, whatever the width of its mantissas and exponents.

## Main results

- `exists_roundWithAccuracy`: what rounding makes of a number.
- `unpack_pack_ofParts`: what is left of it once it is stored.
- `exists_pack_mul`: both of these for a product.
- `decode_eq_reading`: the two decoders of bits agree.
-/
namespace RoadSketch.FloatFormat

open Float.Model (Format UnpackedFloat totalExponent)
open Float.Model.UnpackedFloat

/-! ### Extended mantissas -/

section
variable {em : ExtendedMantissa} {v : ℚ}

/-- An extended mantissa stands for a number: the two bits say how far above the mantissa it is. -/
def Holds (em : ExtendedMantissa) (v : ℚ) : Prop :=
  match em.roundBit, em.stickyBit with
  | false, false => v = em.mantissa
  | false, true => em.mantissa < v ∧ v < em.mantissa + 1 / 2
  | true, false => v = em.mantissa + 1 / 2
  | true, true => em.mantissa + 1 / 2 < v ∧ v < em.mantissa + 1

theorem Holds.shiftRightOne (holds : Holds em v) : Holds em.shiftRightOne (v / 2) := by
  obtain ⟨mantissa, round, sticky⟩ := em
  have parts : (mantissa : ℚ) = (mantissa % 2 : ℕ) + 2 * (mantissa / 2 : ℕ) := by
    exact_mod_cast (Nat.mod_add_div mantissa 2).symm
  -- Four cases of the bits that are there, two of the bit that is shifted out.
  rcases Nat.mod_two_eq_zero_or_one mantissa with even | odd
  · rw [even] at parts
    cases round <;> cases sticky <;>
      simp only [Holds, ExtendedMantissa.shiftRightOne, even] at holds ⊢ <;>
      push_cast at parts <;> (try constructor) <;> simp at * <;> linarith
  · rw [odd] at parts
    cases round <;> cases sticky <;>
      simp only [Holds, ExtendedMantissa.shiftRightOne, odd] at holds ⊢ <;>
      push_cast at parts <;> (try constructor) <;> simp at * <;> linarith

theorem Holds.shiftRight (holds : Holds em v) (n : Nat) : Holds (em >>> n) (v / 2 ^ n) := by
  change Holds (Nat.repeat ExtendedMantissa.shiftRightOne n em) _
  induction n with
  | zero => simpa [Nat.repeat] using holds
  | succ n ih =>
    rw [Nat.repeat, pow_succ, ← div_div]
    exact ih.shiftRightOne

theorem mantissa_shiftRight (em : ExtendedMantissa) (n : Nat) :
    (em >>> n).mantissa = em.mantissa / 2 ^ n := by
  change (Nat.repeat ExtendedMantissa.shiftRightOne n em).mantissa = _
  induction n with
  | zero => simp [Nat.repeat]
  | succ n ih => rw [Nat.repeat, pow_succ, ← Nat.div_div_eq_div_mul, ← ih]; rfl

theorem roundedMantissa_bounds (em : ExtendedMantissa) :
    em.mantissa ≤ em.roundedMantissa ∧ em.roundedMantissa ≤ em.mantissa + 1 := by
  obtain ⟨mantissa, round, sticky⟩ := em
  cases round <;> cases sticky <;>
    simp only [ExtendedMantissa.roundedMantissa, ExtendedMantissa.accuracy,
      Accuracy.roundToNearestEven] <;> omega

/-- Rounding is off by half a unit at most. -/
theorem Holds.abs_roundedMantissa_sub (holds : Holds em v) :
    |(em.roundedMantissa : ℚ) - v| ≤ 1 / 2 := by
  obtain ⟨mantissa, round, sticky⟩ := em
  cases round <;> cases sticky <;>
    simp only [Holds, ExtendedMantissa.roundedMantissa, ExtendedMantissa.accuracy,
      Accuracy.roundToNearestEven] at holds ⊢
  · simp [holds]
  · rw [abs_le]
    constructor <;> linarith
  · -- Halfway, the even one of both neighbours is taken.
    rcases Nat.mod_two_eq_zero_or_one mantissa with even | odd
    · simp [even, holds, abs_of_pos]
    · simp only [odd, holds]
      push_cast
      rw [abs_le]
      constructor <;> linarith
  · push_cast
    rw [abs_le]
    constructor <;> linarith

theorem holds_exact (mantissa : Nat) :
    Holds (.ofMantissaAndAccuracy mantissa .exact) mantissa := rfl

theorem mantissa_ofMantissaAndAccuracy (mantissa : Nat) (accuracy : Accuracy) :
    (ExtendedMantissa.ofMantissaAndAccuracy mantissa accuracy).mantissa = mantissa := by
  cases accuracy with
  | exact => rfl
  | inexact place => cases place <;> rfl

/-- The remainder of a division says where the quotient lies. -/
theorem holds_quotient (num : Nat) {den : Nat} (positive : 0 < den) :
    Holds (.ofMantissaAndAccuracy (num / den) (accuracyOfFraction (num % den) den))
      (num / den : ℚ) := by
  have size : (0 : ℚ) < den := by exact_mod_cast positive
  have parts : (num : ℚ) = (num % den : ℕ) + den * (num / den : ℕ) := by
    exact_mod_cast (Nat.mod_add_div num den).symm
  have small : ((num % den : ℕ) : ℚ) < den := by exact_mod_cast Nat.mod_lt num positive
  have share : (num : ℚ) / den = (num / den : ℕ) + (num % den : ℕ) / den := by
    rw [parts]
    field_simp
    ring
  rw [share]
  generalize num / den = quotient at *
  generalize num % den = rest at *
  have fraction : (rest : ℚ) / den < 1 := (div_lt_one size).mpr small
  unfold accuracyOfFraction
  split
  next zero => simp [zero, ExtendedMantissa.ofMantissaAndAccuracy, Holds]
  next some =>
    have above : (0 : ℚ) < rest / den := by
      have : (0 : ℚ) < rest := by exact_mod_cast Nat.pos_of_ne_zero some
      positivity
    -- The rest is compared with half of the divisor.
    rcases lt_trichotomy (2 * rest) den with below | half | beyond
    · have less : (rest : ℚ) / den < 1 / 2 := by
        rw [div_lt_div_iff₀ size two_pos]
        have : (2 * rest : ℚ) < den := by exact_mod_cast below
        linarith
      rw [Nat.compare_eq_lt.mpr below]
      constructor <;> simp only [ExtendedMantissa.ofMantissaAndAccuracy] <;> linarith
    · have equal : (rest : ℚ) / den = 1 / 2 := by
        rw [div_eq_div_iff size.ne' two_ne_zero]
        have : (2 * rest : ℚ) = den := by exact_mod_cast half
        linarith
      rw [Nat.compare_eq_eq.mpr half]
      simp [ExtendedMantissa.ofMantissaAndAccuracy, Holds, equal]
    · have more : 1 / 2 < (rest : ℚ) / den := by
        rw [div_lt_div_iff₀ two_pos size]
        have : (den : ℚ) < 2 * rest := by exact_mod_cast beyond
        linarith
      rw [Nat.compare_eq_gt.mpr beyond]
      constructor <;> simp only [ExtendedMantissa.ofMantissaAndAccuracy] <;> linarith

end

/-! ### Formats -/

variable {spec : Format}

/-- A number of bits makes twice as many exponents as the bias, and two more. -/
theorem two_pow_exponentBits (spec : Format) :
    2 ^ spec.exponentBits = 2 * spec.exponentBias + 2 := by
  have some := spec.he
  have double : 2 ^ spec.exponentBits = 2 * 2 ^ (spec.exponentBits - 1) := by
    rw [← pow_succ']
    congr 1
    omega
  have positive : 0 < 2 ^ (spec.exponentBits - 1) := Nat.two_pow_pos _
  rw [double, Format.exponentBias]
  omega

theorem minExponent_eq (spec : Format) :
    spec.minExponent = 1 - spec.exponentBias - spec.mantissaBitsWithoutImplicit := by
  have positive : 0 < 2 ^ (spec.exponentBits - 1) := Nat.two_pow_pos _
  have bias : ((2 ^ (spec.exponentBits - 1) : Nat) : Int) = spec.exponentBias + 1 := by
    rw [Format.exponentBias]
    omega
  push_cast at bias
  rw [Format.minExponent, Format.mantissaBits, bias]
  omega

/-- The greatest exponent of the numbers of a format. -/
def maxExponent (spec : Format) : Int := spec.exponentBias - spec.mantissaBitsWithoutImplicit

/-- The mantissas and exponents of the numbers that a format can store. -/
structure IsStored (spec : Format) (mantissa : Nat) (exponent : Int) : Prop where
  below : mantissa < 2 ^ (spec.mantissaBitsWithoutImplicit + 1)
  least : spec.minExponent ≤ exponent
  leading : 2 ^ spec.mantissaBitsWithoutImplicit ≤ mantissa ∨ exponent = spec.minExponent

/-- The leading bit of a normal mantissa is not stored. -/
theorem toNat_withLeading {width : Nat} (mantissa : BitVec width) :
    (1#1 ++ mantissa).toNat = 2 ^ width + mantissa.toNat := by
  rw [BitVec.toNat_append, ← Nat.shiftLeft_add_eq_or_of_lt mantissa.isLt]
  simp [Nat.shiftLeft_eq]

theorem toNat_eq_zero {width : Nat} {x : BitVec width} : x.toNat = 0 ↔ x = 0#_ := by
  rw [← BitVec.toNat_inj, BitVec.toNat_zero]

theorem toNat_eq_greatest {width : Nat} {x : BitVec width} :
    x.toNat = 2 ^ width - 1 ↔ x = -1#_ := by
  rw [BitVec.neg_one_eq_allOnes, ← BitVec.toNat_inj, BitVec.toNat_allOnes]

theorem isStored_of_unpack {bits : BitVec spec.numBits} {sign : Sign} {mantissa : Nat}
    {exponent : Int} {positive : 0 < mantissa}
    (unpacked : unpack spec bits = .finite sign mantissa exponent positive) :
    IsStored spec mantissa exponent := by
  have below := (unpackMantissa bits).isLt
  have least := minExponent_eq spec
  simp only [unpack] at unpacked
  split at unpacked
  · split at unpacked <;> cases unpacked
  · split at unpacked
    next zero =>
      split at unpacked
      · cases unpacked
      · cases unpacked
        rw [zero, BitVec.toNat_zero]
        exact ⟨below.trans (Nat.pow_lt_pow_succ one_lt_two), by omega, .inr (by omega)⟩
    next nonzero =>
      cases unpacked
      have normal : (unpackExponent bits).toNat ≠ 0 := mt toNat_eq_zero.mp nonzero
      rw [toNat_withLeading]
      exact ⟨by rw [pow_succ]; omega, by omega, .inl (by omega)⟩

/-! ### Rounding -/

/-- The number with a sign, a mantissa and an exponent, before it is stored. -/
def ofParts (sign : Sign) (mantissa : Nat) (exponent : Int) : UnpackedFloat :=
  if h : mantissa = 0 then .zero sign else .finite sign mantissa exponent (Nat.pos_of_ne_zero h)

theorem targetExponent_eq (spec : Format) (mantissa : Nat) (exponent : Int) :
    spec.targetExponent (totalExponent mantissa exponent) =
      max (mantissa.log2 + exponent - spec.mantissaBitsWithoutImplicit) spec.minExponent := by
  rw [Format.targetExponent, totalExponent, Format.mantissaBits]
  congr 1
  push_cast
  ring

/-- What a mantissa and an exponent stand for. -/
def magnitude (mantissa : Nat) (exponent : Int) : ℚ := mantissa * 2 ^ exponent

theorem magnitude_nonneg (mantissa : Nat) (exponent : Int) : 0 ≤ magnitude mantissa exponent := by
  unfold magnitude
  positivity

theorem magnitude_le_of_le {mantissa bound : Nat} {exponent unit : Int} (few : mantissa ≤ bound)
    (low : exponent ≤ unit) : magnitude mantissa exponent ≤ bound * 2 ^ unit := by
  have count : (mantissa : ℚ) ≤ bound := by exact_mod_cast few
  have power : (2 : ℚ) ^ exponent ≤ 2 ^ unit := zpow_le_zpow_right₀ one_le_two low
  exact mul_le_mul count power (by positivity) (by positivity)

theorem le_magnitude_of_le {mantissa bound : Nat} {exponent unit : Int} (many : bound ≤ mantissa)
    (high : unit ≤ exponent) : bound * 2 ^ unit ≤ magnitude mantissa exponent := by
  have count : (bound : ℚ) ≤ mantissa := by exact_mod_cast many
  have power : (2 : ℚ) ^ unit ≤ 2 ^ exponent := zpow_le_zpow_right₀ one_le_two high
  exact mul_le_mul count power (by positivity) (by positivity)

/-- There are enough digits, so no digit has to be made up to fill a mantissa. -/
def HasDigits (spec : Format) (mantissa : Nat) (exponent : Int) : Prop :=
  exponent ≤
    max (mantissa.log2 + exponent - spec.mantissaBitsWithoutImplicit : Int) spec.minExponent

section
variable {mantissa : Nat} {exponent : Int}

theorem shiftToTargetExponent_small
    (below : mantissa < 2 ^ (spec.mantissaBitsWithoutImplicit + 1))
    (least : spec.minExponent ≤ exponent) :
    shiftToTargetExponent spec mantissa exponent .exact =
      (⟨mantissa, false, false⟩, exponent) := by
  have short : mantissa.log2 ≤ spec.mantissaBitsWithoutImplicit := by
    by_cases zero : mantissa = 0
    · simp [zero]
    · have := (Nat.log2_lt zero).mpr below
      omega
  have none : (max ((mantissa.log2 : Int) + exponent - spec.mantissaBitsWithoutImplicit)
      spec.minExponent - exponent).toNat = 0 := by omega
  rw [shiftToTargetExponent, targetExponent_eq, shiftToExponent, none]
  simp [ExtendedMantissa.ofMantissaAndAccuracy, HShiftRight.hShiftRight, Nat.repeat]

/-- A mantissa that was rounded up to one digit more loses that digit again. -/
theorem shiftToTargetExponent_carry (least : spec.minExponent ≤ exponent) :
    shiftToTargetExponent spec (2 ^ (spec.mantissaBitsWithoutImplicit + 1)) exponent .exact =
      (⟨2 ^ spec.mantissaBitsWithoutImplicit, false, false⟩, exponent + 1) := by
  have one : (max (((2 ^ (spec.mantissaBitsWithoutImplicit + 1) : Nat).log2 : Int) + exponent -
      spec.mantissaBitsWithoutImplicit) spec.minExponent - exponent).toNat = 1 := by
    rw [Nat.log2_two_pow]
    omega
  rw [shiftToTargetExponent, targetExponent_eq, shiftToExponent, one]
  simp [ExtendedMantissa.ofMantissaAndAccuracy, HShiftRight.hShiftRight, Nat.repeat,
    ExtendedMantissa.shiftRightOne, pow_succ]

theorem div_two_pow_lt {n width : Nat} (digits : mantissa.log2 ≤ width + n) :
    mantissa / 2 ^ n < 2 ^ (width + 1) := by
  rw [Nat.div_lt_iff_lt_mul (Nat.two_pow_pos n), ← Nat.pow_add]
  exact Nat.lt_log2_self.trans_le (Nat.pow_le_pow_right two_pos (by omega))

theorem le_div_two_pow {n width : Nat} (some : mantissa ≠ 0) (digits : width + n ≤ mantissa.log2) :
    2 ^ width ≤ mantissa / 2 ^ n := by
  rw [Nat.le_div_iff_mul_le (Nat.two_pow_pos n), ← Nat.pow_add]
  exact (Nat.pow_le_pow_right two_pos digits).trans (Nat.log2_self_le some)

/-- A number that was shifted to an exponent of a format: what is left of the mantissa is as long as
the format allows, and still stands for the same number. -/
structure IsShifted (spec : Format) (em : ExtendedMantissa) (unit : Int) (w : ℚ) : Prop where
  holds : Holds em (w / 2 ^ unit)
  below : em.mantissa < 2 ^ (spec.mantissaBitsWithoutImplicit + 1)
  least : spec.minExponent ≤ unit
  leading : 2 ^ spec.mantissaBitsWithoutImplicit ≤ em.mantissa ∨ unit = spec.minExponent

theorem exists_shiftToTargetExponent {accuracy : Accuracy} {w : ℚ}
    (stands : Holds (.ofMantissaAndAccuracy mantissa accuracy) (w / 2 ^ exponent))
    (digits : HasDigits spec mantissa exponent) :
    ∃ em unit, IsShifted spec em unit w ∧
      shiftToTargetExponent spec mantissa exponent accuracy = (em, unit) := by
  obtain ⟨unit, named⟩ : ∃ unit, unit = max (mantissa.log2 + exponent -
      spec.mantissaBitsWithoutImplicit : Int) spec.minExponent := ⟨_, rfl⟩
  -- With enough digits, the shift is never to the left.
  obtain ⟨n, amount⟩ : ∃ n : Nat, unit = exponent + n :=
    ⟨(unit - exponent).toNat, by rw [HasDigits, ← named] at digits; omega⟩
  obtain ⟨em, shifted⟩ :
      ∃ em, em = ExtendedMantissa.ofMantissaAndAccuracy mantissa accuracy >>> n := ⟨_, rfl⟩
  have low : em.mantissa = mantissa / 2 ^ n := by
    rw [shifted, mantissa_shiftRight, mantissa_ofMantissaAndAccuracy]
  refine ⟨em, unit, ⟨?_, low ▸ div_two_pow_lt (by omega), by omega, ?_⟩, ?_⟩
  · have scaled := stands.shiftRight n
    rw [← shifted, div_div, ← zpow_natCast, ← zpow_add₀ two_ne_zero, ← amount] at scaled
    exact scaled
  · refine or_iff_not_imp_right.mpr fun normal => ?_
    have long : spec.mantissaBitsWithoutImplicit + n = mantissa.log2 := by omega
    have some : mantissa ≠ 0 := by
      rintro rfl
      have width := spec.hm
      simp at long
      omega
    exact low ▸ le_div_two_pow some long.le
  · have same : (exponent + n - exponent).toNat = n := by omega
    rw [shiftToTargetExponent, targetExponent_eq, ← named, shiftToExponent, amount, same, shifted]

theorem IsShifted.near {em : ExtendedMantissa} {unit : Int} {w : ℚ}
    (shifted : IsShifted spec em unit w) :
    |magnitude em.roundedMantissa unit - w| ≤ 2 ^ unit / 2 := by
  have size : (0 : ℚ) < 2 ^ unit := by positivity
  have close := mul_le_mul_of_nonneg_right shifted.holds.abs_roundedMantissa_sub size.le
  have factored : em.roundedMantissa * 2 ^ unit - w =
      (em.roundedMantissa - w / 2 ^ unit) * 2 ^ unit := by
    rw [sub_mul, div_mul_cancel₀ _ size.ne']
  rw [magnitude, factored, abs_mul, abs_of_pos size]
  linarith

/-- What rounding makes of a number: the result can be stored, and is off by half a unit at most. -/
theorem exists_roundWithAccuracy {accuracy : Accuracy} {w : ℚ} (sign : Sign)
    (stands : Holds (.ofMantissaAndAccuracy mantissa accuracy) (w / 2 ^ exponent))
    (digits : HasDigits spec mantissa exponent) :
    ∃ rounded unit, IsStored spec rounded unit ∧ |magnitude rounded unit - w| ≤ 2 ^ unit / 2 ∧
      roundWithAccuracy spec sign mantissa exponent accuracy = ofParts sign rounded unit := by
  obtain ⟨em, unit, shifted, first⟩ := exists_shiftToTargetExponent stands digits
  have near := shifted.near
  obtain ⟨-, below, least, leading⟩ := shifted
  obtain ⟨atLeast, atMost⟩ := roundedMantissa_bounds em
  -- Rounding up may add a digit, and then a second shift takes the last one, which is zero.
  rcases Nat.lt_or_ge em.roundedMantissa (2 ^ (spec.mantissaBitsWithoutImplicit + 1))
    with fits | carried
  · refine ⟨em.roundedMantissa, unit, ⟨fits, least, by omega⟩, near, ?_⟩
    simp only [roundWithAccuracy, first, shiftToTargetExponent_small fits least, ofParts]
  · have full : em.roundedMantissa = 2 ^ (spec.mantissaBitsWithoutImplicit + 1) := by omega
    refine ⟨2 ^ spec.mantissaBitsWithoutImplicit, unit + 1,
      ⟨Nat.pow_lt_pow_succ one_lt_two, by omega, .inl le_rfl⟩, ?_, ?_⟩
    · have twice : magnitude (2 ^ spec.mantissaBitsWithoutImplicit) (unit + 1) =
          magnitude (2 ^ (spec.mantissaBitsWithoutImplicit + 1)) unit := by
        rw [magnitude, magnitude, zpow_add₀ two_ne_zero]
        push_cast
        ring
      rw [full, ← twice] at near
      have coarser : (2 : ℚ) ^ unit ≤ 2 ^ (unit + 1) := zpow_le_zpow_right₀ one_le_two (by omega)
      linarith
    · simp only [roundWithAccuracy, first, full, shiftToTargetExponent_carry least, ofParts]

end

/-! ### Storing -/

/-- What is left of a number once it is stored: numbers that are too large become infinite. -/
def settle (spec : Format) : UnpackedFloat → UnpackedFloat
  | .finite sign mantissa exponent positive =>
    if maxExponent spec < exponent then .infinity sign else .finite sign mantissa exponent positive
  | u => u

theorem settle_ofParts {sign : Sign} {mantissa : Nat} {exponent : Int}
    (small : exponent ≤ maxExponent spec) :
    settle spec (ofParts sign mantissa exponent) = ofParts sign mantissa exponent := by
  unfold ofParts
  split
  · rfl
  · exact if_neg (by omega)

theorem neg_one_ne_zero (spec : Format) : (-1#(spec.exponentBits)) ≠ 0#(spec.exponentBits) := by
  intro same
  have counts := congrArg BitVec.toNat same
  rw [BitVec.neg_one_eq_allOnes, BitVec.toNat_allOnes, BitVec.toNat_zero] at counts
  have := two_pow_exponentBits spec
  omega

theorem unpack_pack_infinity (sign : Sign) :
    unpack spec (pack spec (.infinity sign)) = .infinity sign := by
  simp only [pack, packedInfinity, unpack, unpackExponent_packComponents,
    unpackMantissa_packComponents, unpackSign_packComponents, Sign.ofBitVec_toBitVec, if_true,
    BitVec.ofNat_eq_ofNat]

theorem unpack_pack_zero (sign : Sign) : unpack spec (pack spec (.zero sign)) = .zero sign :=
  unpack_packedZero

/-- Components with a normal exponent stand for a mantissa with a leading bit. -/
theorem unpack_packComponents_normal (sign : Sign) {mantissa biased : Nat}
    (normal : 2 ^ spec.mantissaBitsWithoutImplicit ≤ mantissa)
    (below : mantissa < 2 ^ (spec.mantissaBitsWithoutImplicit + 1)) (least : 0 < biased)
    (most : biased + 1 < 2 ^ spec.exponentBits) :
    unpack spec (packComponents spec sign (BitVec.ofNat _ biased) (BitVec.ofNat _ mantissa)) =
      .finite sign mantissa (biased - (spec.exponentBias + spec.mantissaBitsWithoutImplicit))
        ((Nat.two_pow_pos _).trans_le normal) := by
  have exponent : (BitVec.ofNat spec.exponentBits biased).toNat = biased := by
    rw [BitVec.toNat_ofNat, Nat.mod_eq_of_lt (by omega)]
  have notMost : BitVec.ofNat spec.exponentBits biased ≠ -1#_ := mt toNat_eq_greatest.mpr (by omega)
  have notLeast : BitVec.ofNat spec.exponentBits biased ≠ 0#_ := mt toNat_eq_zero.mpr (by omega)
  have leading :
      (1#1 ++ BitVec.ofNat spec.mantissaBitsWithoutImplicit mantissa).toNat = mantissa := by
    rw [pow_succ] at below
    rw [toNat_withLeading, BitVec.toNat_ofNat, Nat.mod_eq_sub_mod normal,
      Nat.mod_eq_of_lt (by omega)]
    omega
  simp only [unpack, unpackExponent_packComponents, unpackMantissa_packComponents,
    unpackSign_packComponents, Sign.ofBitVec_toBitVec]
  simp only [if_neg notMost, if_neg notLeast, leading, exponent]

/-- Components without an exponent stand for a mantissa without a leading bit. -/
theorem unpack_packComponents_subnormal (sign : Sign) {mantissa : Nat} (positive : 0 < mantissa)
    (below : mantissa < 2 ^ spec.mantissaBitsWithoutImplicit) :
    unpack spec (packComponents spec sign 0#_ (BitVec.ofNat _ mantissa)) =
      .finite sign mantissa spec.minExponent positive := by
  have whole : (BitVec.ofNat spec.mantissaBitsWithoutImplicit mantissa).toNat = mantissa := by
    rw [BitVec.toNat_ofNat, Nat.mod_eq_of_lt below]
  have some : BitVec.ofNat spec.mantissaBitsWithoutImplicit mantissa ≠ 0#_ :=
    mt toNat_eq_zero.mpr (by omega)
  have least : ((0#(spec.exponentBits)).toNat : Int) -
      (spec.exponentBias + spec.mantissaBitsWithoutImplicit) + 1 = spec.minExponent := by
    rw [minExponent_eq, BitVec.toNat_zero]
    omega
  simp only [unpack, unpackExponent_packComponents, unpackMantissa_packComponents,
    unpackSign_packComponents, Sign.ofBitVec_toBitVec]
  simp only [some, whole, least, (neg_one_ne_zero spec).symm, if_false, if_true, dif_neg,
    not_false_eq_true]

theorem unpack_pack_finite {sign : Sign} {mantissa : Nat} {exponent : Int} {positive : 0 < mantissa}
    (stored : IsStored spec mantissa exponent) :
    unpack spec (pack spec (.finite sign mantissa exponent positive)) =
      settle spec (.finite sign mantissa exponent positive) := by
  obtain ⟨below, least, leading⟩ := stored
  have bias := minExponent_eq spec
  have exponents := two_pow_exponentBits spec
  obtain ⟨biased, named⟩ : ∃ biased : Nat, (biased : Int) =
      exponent + spec.exponentBias + spec.mantissaBitsWithoutImplicit :=
    ⟨(exponent + spec.exponentBias + spec.mantissaBitsWithoutImplicit).toNat, by omega⟩
  have greatest : maxExponent spec = spec.exponentBias - spec.mantissaBitsWithoutImplicit := rfl
  simp only [pack, settle, ← named, Int.toNat_natCast]
  by_cases large : maxExponent spec < exponent
  · rw [if_pos (by omega), if_pos large]
    exact unpack_pack_infinity sign
  · rw [if_neg (by omega), if_neg large]
    -- Without its leading bit, a mantissa is stored under the exponent zero.
    by_cases normal : 2 ^ spec.mantissaBitsWithoutImplicit ≤ mantissa
    · have long : mantissa.log2 + 1 = spec.mantissaBits := by
        rw [(Nat.log2_eq_iff positive.ne').mpr ⟨normal, below⟩, Format.mantissaBits, Nat.add_comm]
      rw [if_pos long, unpack_packComponents_normal sign normal below (by omega) (by omega)]
      congr 1
      omega
    · have short : mantissa.log2 + 1 ≠ spec.mantissaBits := by
        have digits := (Nat.log2_lt positive.ne').mpr (Nat.lt_of_not_le normal)
        rw [Format.mantissaBits]
        omega
      obtain rfl := leading.resolve_left normal
      rw [if_neg short]
      exact unpack_packComponents_subnormal sign positive (Nat.lt_of_not_le normal)

/-- What is left of a rounded result once it is stored. -/
theorem unpack_pack_ofParts {mantissa : Nat} {exponent : Int}
    (stored : IsStored spec mantissa exponent) (sign : Sign) :
    unpack spec (pack spec (ofParts sign mantissa exponent)) =
      settle spec (ofParts sign mantissa exponent) := by
  unfold ofParts
  split
  · exact unpack_pack_zero sign
  · exact unpack_pack_finite stored

/-! ### Products -/

section
variable {sign sign' : Sign} {mantissa mantissa' : Nat} {exponent exponent' : Int}

theorem isStored_zero (spec : Format) : IsStored spec 0 spec.minExponent :=
  ⟨Nat.two_pow_pos _, le_rfl, .inr rfl⟩

theorem magnitude_zero (exponent : Int) : magnitude 0 exponent = 0 := by simp [magnitude]

/-- A product is stored as what its exact value is rounded to. -/
theorem exists_pack_mul (sign sign' : Sign) (positive : 0 < mantissa')
    (digits : HasDigits spec (mantissa * mantissa') (exponent + exponent')) :
    ∃ rounded unit, IsStored spec rounded unit ∧
      |magnitude rounded unit - magnitude mantissa exponent * magnitude mantissa' exponent'| ≤
        2 ^ unit / 2 ∧
      unpack spec (pack spec (UnpackedFloat.mul spec (ofParts sign mantissa exponent)
        (.finite sign' mantissa' exponent' positive))) =
          settle spec (ofParts (sign * sign') rounded unit) := by
  by_cases zero : mantissa = 0
  · refine ⟨0, spec.minExponent, isStored_zero spec, by simp [zero, magnitude_zero]; positivity, ?_⟩
    simp only [ofParts, zero, dite_true]
    exact unpack_pack_zero _
  · have exact : Holds (.ofMantissaAndAccuracy (mantissa * mantissa') .exact)
        (magnitude mantissa exponent * magnitude mantissa' exponent' /
          2 ^ (exponent + exponent')) := by
      convert holds_exact (mantissa * mantissa') using 1
      rw [zpow_add₀ two_ne_zero, magnitude, magnitude]
      push_cast
      field_simp
    obtain ⟨rounded, unit, stored, near, result⟩ :=
      exists_roundWithAccuracy (sign * sign') exact digits
    refine ⟨rounded, unit, stored, near, ?_⟩
    rw [ofParts, dif_neg zero, UnpackedFloat.mul, result]
    exact unpack_pack_ofParts stored _

end

/-! ### Two readings of the bits -/

def isNegative : Sign → Bool
  | .negative => true
  | .positive => false

/-- What a number of a format stands for. -/
def reading (spec : Format) : UnpackedFloat → BinaryValue
  | .notANumber => .notANumber
  | .infinity sign => .infinite (isNegative sign)
  | .zero sign => .finite (isNegative sign) 0 spec.minExponent
  | .finite sign mantissa exponent _ => .finite (isNegative sign) mantissa exponent

theorem isNegative_ofBitVec (sign : BitVec 1) : isNegative (Sign.ofBitVec sign) = sign[0] := by
  revert sign
  decide

/-- The widths of the parts of a format. -/
def layout (spec : Format) : BinaryFormat := ⟨spec.mantissaBitsWithoutImplicit, spec.exponentBits⟩

theorem leastExponent_layout (spec : Format) : (layout spec).leastExponent = spec.minExponent := by
  have positive : 0 < 2 ^ (spec.exponentBits - 1) := Nat.two_pow_pos _
  have bias : binaryPower (spec.exponentBits - 1) = spec.exponentBias + 1 := by
    rw [Format.exponentBias]
    change 2 ^ (spec.exponentBits - 1) = _
    omega
  rw [BinaryFormat.leastExponent, layout, minExponent_eq, bias]
  push_cast
  ring

section
variable (bits : BitVec spec.numBits)

theorem fraction_eq : bits.toNat % binaryPower spec.mantissaBitsWithoutImplicit =
    (unpackMantissa bits).toNat := by
  have some := spec.hm
  have all : spec.mantissaBitsWithoutImplicit - 1 - 0 + 1 = spec.mantissaBitsWithoutImplicit := by
    omega
  simp only [unpackMantissa, BitVec.toNat_cast, BitVec.extractLsb, BitVec.extractLsb'_toNat,
    Nat.shiftRight_zero, all]
  rfl

theorem field_eq : bits.toNat / binaryPower spec.mantissaBitsWithoutImplicit %
    binaryPower spec.exponentBits = (unpackExponent bits).toNat := by
  have some := spec.he
  have all : spec.mantissaBitsWithoutImplicit + spec.exponentBits - 1 -
      spec.mantissaBitsWithoutImplicit + 1 = spec.exponentBits := by omega
  simp only [unpackExponent, BitVec.toNat_cast, BitVec.extractLsb, BitVec.extractLsb'_toNat,
    Nat.shiftRight_eq_div_pow, all]
  rfl

theorem negative_eq : bits.toNat.testBit (spec.mantissaBitsWithoutImplicit + spec.exponentBits) =
    isNegative (Sign.ofBitVec (unpackSign bits)) := by
  rw [isNegative_ofBitVec]
  simp [unpackSign, BitVec.getLsbD]

/-- What is read from the parts that the bits consist of. -/
theorem decode_layout : (layout spec).decode bits.toNat =
    if unpackExponent bits = -1#_ then
      if unpackMantissa bits = 0#_ then
        .infinite (isNegative (Sign.ofBitVec (unpackSign bits)))
      else .notANumber
    else if unpackExponent bits = 0#_ then
      .finite (isNegative (Sign.ofBitVec (unpackSign bits))) (unpackMantissa bits).toNat
        spec.minExponent
    else
      .finite (isNegative (Sign.ofBitVec (unpackSign bits)))
        (2 ^ spec.mantissaBitsWithoutImplicit + (unpackMantissa bits).toNat)
        (spec.minExponent + ((unpackExponent bits).toNat - 1)) := by
  have greatest : (unpackExponent bits).toNat = binaryPower spec.exponentBits - 1 ↔
      unpackExponent bits = -1#_ := toNat_eq_greatest
  rw [BinaryFormat.decode, leastExponent_layout]
  simp only [layout, fraction_eq, field_eq, negative_eq, greatest, toNat_eq_zero]
  rfl

/-- Both decoders read the same out of the bits. -/
theorem decode_eq_reading : (layout spec).decode bits.toNat = reading spec (unpack spec bits) := by
  have exponents := minExponent_eq spec
  rw [decode_layout]
  simp only [unpack]
  -- The greatest exponent is for what is not finite, the least one for zero and the smallest
  -- numbers.
  by_cases special : unpackExponent bits = -1#_
  · rw [if_pos special, if_pos special]
    split <;> rfl
  · rw [if_neg special, if_neg special]
    by_cases zero : unpackExponent bits = 0#_
    · rw [if_pos zero, if_pos zero]
      by_cases none : unpackMantissa bits = 0#_
      · rw [dif_pos none, none, BitVec.toNat_zero]
        rfl
      · rw [dif_neg none, zero, BitVec.toNat_zero]
        simp only [reading]
        congr 1
        omega
    · rw [if_neg zero, if_neg zero]
      simp only [reading, toNat_withLeading]
      congr 1
      omega

end

theorem reading_ofParts {sign : Sign} {mantissa : Nat} {exponent : Int}
    (stored : IsStored spec mantissa exponent) :
    reading spec (ofParts sign mantissa exponent) =
      .finite (isNegative sign) mantissa exponent := by
  unfold ofParts
  split
  next zero =>
    have least : exponent = spec.minExponent :=
      stored.leading.resolve_left (by rw [zero]; exact Nat.not_le.mpr (Nat.two_pow_pos _))
    rw [zero, least]
    rfl
  · rfl

/-! ### Whole numbers -/

/-- Halves go away from zero. -/
theorem roundQuotient_away (num : Nat) {den : Nat} (positive : 0 < den) :
    roundQuotient .away num den = (2 * num + den) / (2 * den) := by
  have parts := Nat.div_add_mod num den
  have rest := Nat.mod_lt num positive
  simp only [roundQuotient]
  generalize num / den = quotient at *
  generalize num % den = remainder at *
  subst parts
  split
  · exact (Nat.div_eq_of_lt_le (by linarith) (by linarith)).symm
  · split <;> exact (Nat.div_eq_of_lt_le (by linarith) (by linarith)).symm

end RoadSketch.FloatFormat
