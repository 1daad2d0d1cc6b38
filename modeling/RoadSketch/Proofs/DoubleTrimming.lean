import RoadSketch.Proofs.DoubleRounding

/-!
# Trimming doubles

Trimming multiplies by ten thousand, takes the nearest whole number and divides again. Each of the
three steps rounds to what a double can store. As long as the stored result has fifteen binary
places or more, the errors of trimming it once more stay below half of a ten-thousandth, so the same
count of ten-thousandths comes out. Larger results may have fewer places, or be infinite.

## Main result

`Double.isTrimmed_trimFloat`: trimming a finite number gives a number, and within the range where
there are enough places it gives a finite one that trimming leaves alone.
-/
namespace RoadSketch.Double

open Float.Model (Format UnpackedFloat totalExponent)
open Float.Model.UnpackedFloat
open FloatFormat (ofParts magnitude reading isNegative roundQuotient_away unpack_pack_infinity
  unpack_pack_zero)

/-! ### Two readings of the bits of a double -/

theorem ofDouble_eq_reading (x : Float) :
    BinaryValue.ofDouble x = reading .binary64 x.toModel.unpack :=
  @FloatFormat.decode_eq_reading .binary64 x.toModel.toBits.toBitVec

theorem reading_ofParts {sign : Sign} {mantissa : Nat} {exponent : Int}
    (stored : IsStored mantissa exponent) :
    reading .binary64 (ofParts sign mantissa exponent) =
      .finite (isNegative sign) mantissa exponent :=
  FloatFormat.reading_ofParts (isStored_iff.mpr stored)

/-! ### Whole numbers -/

/-- The mantissa and the exponent with which a whole number is stored. -/
structure IsWhole (n mantissa : Nat) (exponent : Int) : Prop where
  stored : IsStored mantissa exponent
  value : (mantissa : ℚ) * 2 ^ exponent = n

theorem log2_le_of_lt {n : Nat} (below : n < 2 ^ 53) : n.log2 ≤ 52 := by
  by_cases zero : n = 0
  · simp [zero]
  · have short := (Nat.log2_lt zero).mpr below
    omega

theorem isWhole_shifted {n : Nat} (positive : 0 < n) (below : n < 2 ^ 53) :
    IsWhole n (2 ^ (52 - n.log2) * n) (-(52 - n.log2 : Nat)) := by
  have digits := log2_le_of_lt below
  have upper : n < 2 ^ (n.log2 + 1) := Nat.lt_log2_self
  have lower : 2 ^ n.log2 ≤ n := Nat.log2_self_le positive.ne'
  refine ⟨⟨?_, by omega, .inl ?_⟩, ?_⟩
  · calc 2 ^ (52 - n.log2) * n < 2 ^ (52 - n.log2) * 2 ^ (n.log2 + 1) :=
        Nat.mul_lt_mul_of_pos_left upper (Nat.two_pow_pos _)
      _ = 2 ^ 53 := by rw [← Nat.pow_add]; congr 1; omega
  · calc 2 ^ 52 = 2 ^ (52 - n.log2) * 2 ^ n.log2 := by rw [← Nat.pow_add]; congr 1; omega
      _ ≤ 2 ^ (52 - n.log2) * n := Nat.mul_le_mul_left _ lower
  · rw [zpow_neg, zpow_natCast]
    push_cast
    field_simp

/-- How a whole number is stored if it has no more digits than a mantissa. -/
def whole (n : Nat) : UnpackedFloat :=
  ofParts .positive (2 ^ (52 - n.log2) * n) (-(52 - n.log2 : Nat))

theorem roundWithAccuracy_stored {mantissa : Nat} {exponent : Int}
    (stored : IsStored mantissa exponent) (positive : 0 < mantissa) (sign : Sign) (n : Nat) :
    roundWithAccuracy .binary64 sign (2 ^ n * mantissa) (exponent - n) .exact =
      ofParts sign mantissa exponent := by
  rw [roundWithAccuracy_shifted stored positive, ofParts, dif_neg positive.ne']

theorem normalize_whole {n : Nat} (below : n < 2 ^ 53) :
    UnpackedFloat.normalize .binary64 (n : Int) 0 .positive = whole n := by
  rcases Nat.eq_zero_or_pos n with rfl | positive
  · rfl
  have digits := log2_le_of_lt below
  have above : compare (n : Int) 0 = .gt := by
    rw [compare_gt_iff_gt]
    omega
  have target : Format.binary64.targetExponent (totalExponent n 0) = -(52 - n.log2 : Nat) := by
    rw [targetExponent_eq]
    omega
  have kept := roundWithAccuracy_stored (isWhole_shifted positive below).stored (by positivity)
    .positive 0
  simp only [UnpackedFloat.normalize, above, UnpackedFloat.round, Int.toNat_natCast, target,
    decreaseExponent, Int.zero_sub, neg_neg, Nat.shiftLeft_eq]
  simpa [whole, Nat.mul_comm] using kept

theorem mul_comm (x y : Float) : x * y = y * x := by
  have signs (s t : Sign) : s * t = t * s := by cases s <;> cases t <;> rfl
  have unpacked (u v : UnpackedFloat) :
      UnpackedFloat.mul .binary64 u v = UnpackedFloat.mul .binary64 v u := by
    cases u <;> cases v <;>
      simp only [UnpackedFloat.mul, signs, Nat.mul_comm, Int.add_comm]
  exact congrArg (fun u => Float.ofModel (.pack u)) (unpacked _ _)

theorem unpack_toFloat {n : Nat} (below : n < 2 ^ 53) :
    n.toUInt64.toFloat.toModel.unpack = whole n := by
  have same : n.toUInt64.toNat = n := by
    rw [Nat.toUInt64, UInt64.toNat_ofNat']
    omega
  change unpack .binary64 (pack .binary64
    (UnpackedFloat.normalize .binary64 (n.toUInt64.toNat : Int) 0 .positive)) = _
  rw [same, normalize_whole below]
  rcases Nat.eq_zero_or_pos n with rfl | positive
  · rfl
  · exact (unpack_pack_ofParts (isWhole_shifted positive below).stored .positive).trans
      (settle_ofParts (by omega))

theorem unpack_ofNat {n : Nat} (below : n < 2 ^ 53) : (Float.ofNat n).toModel.unpack = whole n := by
  have fast : Float.ofNat n = n.toUInt64.toFloat * 1 := by
    change Float.ofScientific n false 0 = _
    rw [Float.ofScientific, dif_pos ⟨below, by decide⟩]
    rfl
  rw [fast, mul_comm, one_mul, unpack_toFloat below]

/-! ### The nearest whole number -/

def signed (sign : Sign) (x : Float) : Float :=
  match sign with
  | .negative => -x
  | .positive => x

theorem unpack_signed_ofNat {n : Nat} (below : n < 2 ^ 53) (sign : Sign) :
    (signed sign (Float.ofNat n)).toModel.unpack =
      ofParts sign (2 ^ (52 - n.log2) * n) (-(52 - n.log2 : Nat)) := by
  have positive := unpack_ofNat below
  cases sign with
  | positive => exact positive
  | negative =>
    rcases Nat.eq_zero_or_pos n with rfl | some
    · rfl
    · exact (unpack_neg (isWhole_shifted some below).stored positive).trans
        (settle_ofParts (by omega))

section
variable {x : Float} {sign : Sign} {mantissa : Nat} {exponent : Int}

theorem nearestWhole_fraction (stored : IsStored mantissa exponent)
    (unpacked : x.toModel.unpack = ofParts sign mantissa exponent) (fraction : exponent < 0) :
    nearestWhole x =
      signed sign (Float.ofNat (roundQuotient .away mantissa (2 ^ (-exponent).toNat))) := by
  rw [nearestWhole, ofDouble_eq_reading, unpacked, reading_ofParts stored]
  dsimp only
  rw [if_neg (by omega)]
  cases sign <;> rfl

theorem nearestWhole_whole (stored : IsStored mantissa exponent)
    (unpacked : x.toModel.unpack = settle (ofParts sign mantissa exponent)) (whole : 0 ≤ exponent) :
    nearestWhole x = x := by
  rw [nearestWhole, ofDouble_eq_reading, unpacked]
  by_cases large : 971 < exponent
  · have some : mantissa ≠ 0 := by
      rintro rfl
      have := stored.leading
      omega
    simp only [ofParts, dif_neg some, settle, if_pos large]
    rfl
  · rw [settle_ofParts (by omega), reading_ofParts stored]
    exact if_pos whole

end

theorem roundQuotient_le {mantissa : Nat} (below : mantissa < 2 ^ 53) {n : Nat} (positive : 0 < n) :
    roundQuotient .away mantissa (2 ^ n) ≤ 2 ^ 52 := by
  have some : 2 ≤ 2 ^ n := Nat.le_self_pow positive.ne' 2
  rw [roundQuotient_away _ (Nat.two_pow_pos n)]
  exact Nat.div_le_of_le_mul (by nlinarith)

theorem magnitude_fraction {mantissa : Nat} {exponent : Int} (fraction : exponent < 0) :
    magnitude mantissa exponent = mantissa / (2 ^ (-exponent).toNat : ℕ) := by
  have power : (2 : ℚ) ^ exponent = ((2 : ℚ) ^ (-exponent).toNat)⁻¹ := by
    rw [← zpow_natCast, ← zpow_neg]
    congr 1
    omega
  rw [magnitude, power, div_eq_mul_inv]
  push_cast
  rfl

/-- The whole number that a quotient is close to. -/
theorem roundQuotient_eq {num den n : Nat} (positive : 0 < den)
    (near : |(num : ℚ) / den - n| < 1 / 2) : roundQuotient .away num den = n := by
  have size : (0 : ℚ) < den := by exact_mod_cast positive
  have low : 2 * n * den < 2 * num + den := by
    have below := (abs_lt.mp near).1
    rw [lt_sub_iff_add_lt, lt_div_iff₀ size] at below
    have doubled : (2 * n * den : ℚ) < 2 * num + den := by linarith
    exact_mod_cast doubled
  have high : 2 * num < (2 * n + 1) * den := by
    have above := (abs_lt.mp near).2
    rw [sub_lt_iff_lt_add, div_lt_iff₀ size] at above
    have doubled : (2 * num : ℚ) < (2 * n + 1) * den := by linarith
    exact_mod_cast doubled
  rw [roundQuotient_away num positive]
  exact Nat.div_eq_of_lt_le (by linarith) (by linarith)

/-! ### Ten-thousandths -/

theorem unpack_tenThousand : (10000 : Float).toModel.unpack =
    .finite .positive (2 ^ 39 * 10000) (-39) (by decide) := rfl

theorem magnitude_tenThousand : magnitude (2 ^ 39 * 10000) (-39) = 10000 := by
  norm_num [magnitude]

section
variable {x : Float} {sign : Sign} {mantissa : Nat} {exponent : Int}

theorem exists_scaled (stored : IsStored mantissa exponent)
    (unpacked : x.toModel.unpack = ofParts sign mantissa exponent) :
    ∃ rounded unit, IsStored rounded unit ∧
      |magnitude rounded unit - magnitude mantissa exponent * 10000| ≤ 2 ^ unit / 2 ∧
      (x * 10000).toModel.unpack = settle (ofParts sign rounded unit) := by
  obtain ⟨rounded, unit, kept, near, result⟩ :=
    exists_unpack_mul_factor stored unpacked unpack_tenThousand (by decide) (by decide)
  rw [magnitude_tenThousand] at near
  exact ⟨rounded, unit, kept, near, result⟩

theorem exists_unscaled (unpacked : x.toModel.unpack = ofParts sign mantissa exponent) :
    ∃ rounded unit, IsStored rounded unit ∧
      |magnitude rounded unit - magnitude mantissa exponent / 10000| ≤ 2 ^ unit / 2 ∧
      (x / 10000).toModel.unpack = settle (ofParts sign rounded unit) := by
  obtain ⟨rounded, unit, kept, near, result⟩ := exists_unpack_div unpacked unpack_tenThousand
  rw [magnitude_tenThousand] at near
  have same : sign / .positive = sign := by cases sign <;> rfl
  rw [same] at result
  exact ⟨rounded, unit, kept, near, result⟩

end

/-- A count of ten-thousandths, in the precision that doubles have. -/
def tenThousandths (sign : Sign) (n : Nat) : Float := signed sign (Float.ofNat n) / 10000

/-- How large the unit of a rounded number can be. -/
theorem unit_le_of_near {mantissa : Nat} {exponent bound : Int} {v : ℚ}
    (stored : IsStored mantissa exponent)
    (near : |magnitude mantissa exponent - v| ≤ 2 ^ exponent / 2) (least : -1074 ≤ bound)
    (small : v < (2 ^ 52 - 1) * 2 ^ (bound + 1)) : exponent ≤ bound := by
  by_contra large
  have leading : (2 : ℚ) ^ 52 ≤ mantissa := by
    exact_mod_cast stored.leading.resolve_right (by omega)
  have power : (2 : ℚ) ^ (bound + 1) ≤ 2 ^ exponent :=
    zpow_le_zpow_right₀ one_le_two (by omega)
  have size : (0 : ℚ) < 2 ^ exponent := by positivity
  have close := (abs_le.mp near).2
  have lower : (2 : ℚ) ^ 52 * 2 ^ exponent ≤ magnitude mantissa exponent :=
    mul_le_mul_of_nonneg_right leading size.le
  have upper : ((2 : ℚ) ^ 52 - 1) * 2 ^ (bound + 1) ≤ (2 ^ 52 - 1) * 2 ^ exponent :=
    mul_le_mul_of_nonneg_left power (by norm_num)
  linarith

theorem magnitude_lt {mantissa : Nat} {exponent : Int} (stored : IsStored mantissa exponent) :
    magnitude mantissa exponent < 2 ^ (53 + exponent) := by
  rw [zpow_add₀ two_ne_zero, magnitude]
  have below : (mantissa : ℚ) < 2 ^ (53 : ℤ) := by exact_mod_cast stored.below
  gcongr

theorem exists_unpack_tenThousandths {n : Nat} (small : n ≤ 2 ^ 52) (sign : Sign) :
    ∃ rounded unit, IsStored rounded unit ∧ |magnitude rounded unit - n / 10000| ≤ 2 ^ unit / 2 ∧
      (tenThousandths sign n).toModel.unpack = settle (ofParts sign rounded unit) := by
  have below : n < 2 ^ 53 := small.trans_lt (by decide)
  obtain ⟨rounded, unit, stored, near, result⟩ :=
    exists_unscaled (unpack_signed_ofNat below sign)
  have value : magnitude (2 ^ (52 - n.log2) * n) (-(52 - n.log2 : Nat)) = n := by
    rcases Nat.eq_zero_or_pos n with rfl | positive
    · simp [magnitude]
    · exact (isWhole_shifted positive below).value
  rw [value] at near
  exact ⟨rounded, unit, stored, near, result⟩

/-- Up to some size, as many ten-thousandths are found again as there were. -/
theorem trimFloat_tenThousandths {sign : Sign} {n rounded : Nat} {unit : Int}
    (stored : IsStored rounded unit) (near : |magnitude rounded unit - n / 10000| ≤ 2 ^ unit / 2)
    (unpacked : (tenThousandths sign n).toModel.unpack = settle (ofParts sign rounded unit))
    (fine : unit ≤ -15) : trimFloat (tenThousandths sign n) = tenThousandths sign n := by
  rw [settle_ofParts (by omega)] at unpacked
  obtain ⟨scaled, unit', stored', near', result⟩ := exists_scaled stored unpacked
  have size : magnitude rounded unit < 2 ^ 38 :=
    (magnitude_lt stored).trans_le
      (zpow_le_zpow_right₀ one_le_two (show 53 + unit ≤ (38 : ℕ) by omega))
  have fraction : unit' ≤ -1 :=
    unit_le_of_near stored' near' (by decide) (by norm_num at size ⊢; linarith)
  -- The product is off by a quarter at most, and what it should be by less than another quarter.
  have finest : (2 : ℚ) ^ unit ≤ 2 ^ (-15 : ℤ) := zpow_le_zpow_right₀ one_le_two fine
  have halves : (2 : ℚ) ^ unit' ≤ 2 ^ (-1 : ℤ) := zpow_le_zpow_right₀ one_le_two fraction
  have close : |magnitude scaled unit' - n| < 1 / 2 := by
    rw [abs_le] at near near'
    rw [abs_lt]
    norm_num at finest halves
    constructor <;> linarith
  rw [magnitude_fraction (show unit' < 0 by omega)] at close
  rw [settle_ofParts (by omega)] at result
  have found := nearestWhole_fraction stored' result (by omega)
  rw [roundQuotient_eq (Nat.two_pow_pos _) close] at found
  rw [trimFloat, found, tenThousandths]

/-! ### Trimming -/

theorem exists_parts {x : Float} (finite : x.isFinite) :
    ∃ sign mantissa exponent, IsStored mantissa exponent ∧
      x.toModel.unpack = ofParts sign mantissa exponent := by
  have known : x.toModel.unpack.isFinite := finite
  cases unpacked : x.toModel.unpack with
  | notANumber => simp [unpacked, UnpackedFloat.isFinite] at known
  | infinity sign => simp [unpacked, UnpackedFloat.isFinite] at known
  | zero sign => exact ⟨sign, 0, -1074, isStored_zero, rfl⟩
  | finite sign mantissa exponent positive =>
    refine ⟨sign, mantissa, exponent, isStored_of_unpack unpacked, ?_⟩
    rw [ofParts, dif_neg positive.ne']

section
variable {x : Float} {sign : Sign} {mantissa : Nat} {exponent : Int}

theorem unpack_unscaled_infinity (unpacked : x.toModel.unpack = .infinity sign) :
    (x / 10000).toModel.unpack = .infinity sign := by
  have quotient : (x / 10000).toModel.unpack = unpack .binary64 (pack .binary64
      (UnpackedFloat.div .binary64 x.toModel.unpack (10000 : Float).toModel.unpack)) := rfl
  have same : sign / .positive = sign := by cases sign <;> rfl
  rw [quotient, unpacked, unpack_tenThousand, UnpackedFloat.div, same]
  exact unpack_pack_infinity sign

/-- What has no fraction of its own is large, even after it was divided. -/
theorem exists_unscaled_whole (stored : IsStored mantissa exponent) (whole : 0 ≤ exponent)
    (unpacked : x.toModel.unpack = settle (ofParts sign mantissa exponent)) :
    ∃ rounded unit, IsStored rounded unit ∧ -15 < unit ∧
      (x / 10000).toModel.unpack = settle (ofParts sign rounded unit) := by
  have leading : 2 ^ 52 ≤ mantissa := stored.leading.resolve_right (by omega)
  by_cases large : 971 < exponent
  · simp only [ofParts, dif_neg (show mantissa ≠ 0 by omega), settle, if_pos large] at unpacked
    exact ⟨2 ^ 52, 972, ⟨by decide, by decide, .inl le_rfl⟩, by decide,
      unpack_unscaled_infinity unpacked⟩
  · rw [settle_ofParts (by omega)] at unpacked
    obtain ⟨rounded, unit, stored', near, result⟩ := exists_unscaled unpacked
    refine ⟨rounded, unit, stored', ?_, result⟩
    by_contra fine
    have least : (2 : ℚ) ^ 52 ≤ magnitude mantissa exponent :=
      calc (2 : ℚ) ^ 52 ≤ mantissa := by exact_mod_cast leading
        _ ≤ mantissa * 2 ^ exponent :=
          le_mul_of_one_le_right (Nat.cast_nonneg _) (one_le_zpow₀ one_le_two whole)
    have size : magnitude rounded unit < 2 ^ 38 :=
      (magnitude_lt stored').trans_le
        (zpow_le_zpow_right₀ one_le_two (show 53 + unit ≤ (38 : ℕ) by omega))
    have finest : (2 : ℚ) ^ unit ≤ 2 ^ (-15 : ℤ) := zpow_le_zpow_right₀ one_le_two (by omega)
    have close := (abs_le.mp near).1
    norm_num at finest size least
    linarith

/-- What trimming makes of a finite number: something of the same sign, and up to some size
something that trimming leaves alone. -/
theorem exists_unpack_trimFloat (stored : IsStored mantissa exponent)
    (unpacked : x.toModel.unpack = ofParts sign mantissa exponent) :
    ∃ rounded unit, IsStored rounded unit ∧
      (trimFloat x).toModel.unpack = settle (ofParts sign rounded unit) ∧
      (unit ≤ -15 → trimFloat (trimFloat x) = trimFloat x) := by
  obtain ⟨scaled, unit, stored', -, result⟩ := exists_scaled stored unpacked
  -- A product without a fraction is whole already; any other is brought to the nearest count.
  by_cases whole : 0 ≤ unit
  · have kept : trimFloat x = x * 10000 / 10000 := by
      rw [trimFloat, nearestWhole_whole stored' result whole]
    obtain ⟨rounded, unit', stored'', large, result'⟩ := exists_unscaled_whole stored' whole result
    rw [kept]
    exact ⟨rounded, unit', stored'', result', fun fine => by omega⟩
  · rw [settle_ofParts (by omega)] at result
    have found := nearestWhole_fraction stored' result (by omega)
    have count := roundQuotient_le stored'.below (show 0 < (-unit).toNat by omega)
    generalize roundQuotient .away scaled (2 ^ (-unit).toNat) = n at found count
    have kept : trimFloat x = tenThousandths sign n := by rw [trimFloat, found, tenThousandths]
    obtain ⟨rounded, unit', stored'', near, result'⟩ := exists_unpack_tenThousandths count sign
    rw [kept]
    exact ⟨rounded, unit', stored'', result', trimFloat_tenThousandths stored'' near result'⟩

end

/-! ### Trimming what is not negative -/

theorem unpack_zero : (0 : Float).toModel.unpack = .zero .positive := rfl

theorem zero_le_of_unpack {y : Float} {mantissa : Nat} {exponent : Int}
    (unpacked : y.toModel.unpack = settle (ofParts .positive mantissa exponent)) : 0 ≤ y := by
  refine decide_eq_true (show UnpackedFloat.le (0 : Float).toModel.unpack y.toModel.unpack from ?_)
  rw [unpack_zero, unpacked, settle_ofParts_eq]
  split
  · rfl
  · split <;> rfl

theorem zero_le_trimFloat {x : Float} (finite : x.isFinite) (notBelow : ¬x < 0) :
    0 ≤ trimFloat x := by
  obtain ⟨sign, mantissa, exponent, stored, unpacked⟩ := exists_parts finite
  cases sign with
  | positive =>
    obtain ⟨rounded, unit, -, result, -⟩ := exists_unpack_trimFloat stored unpacked
    exact zero_le_of_unpack result
  | negative =>
    by_cases zero : mantissa = 0
    · -- The negative zero is not less than the other one.
      rw [ofParts, dif_pos zero] at unpacked
      have same : x = Float.ofModel (.pack (.zero .negative)) := by
        rw [← ofModel_pack_unpack x, unpacked]
      rw [same]
      decide +kernel
    · refine absurd (decide_eq_true
        (show UnpackedFloat.lt x.toModel.unpack (0 : Float).toModel.unpack from ?_)) notBelow
      rw [unpack_zero, unpacked, ofParts, dif_neg zero]
      rfl

theorem IsUnsigned.lt_zero {u : UnpackedFloat} (unsigned : IsUnsigned u) :
    UnpackedFloat.lt u (.zero .positive) = false := by
  cases u with
  | notANumber => rfl
  | infinity sign =>
    cases unsigned
    rfl
  | zero sign => rfl
  | finite sign mantissa exponent positive =>
    cases unsigned
    rfl

theorem not_abs_lt_zero (x : Float) : ¬x.abs < 0 := by
  intro below
  have less : UnpackedFloat.lt x.abs.toModel.unpack (0 : Float).toModel.unpack :=
    of_decide_eq_true below
  have unsigned : IsUnsigned x.abs.toModel.unpack := by
    refine IsUnsigned.unpack_pack ?_
    cases x.toModel.unpack <;> trivial
  rw [unpack_zero, unsigned.lt_zero] at less
  cases less

theorem not_greater_lt_zero (x : Float) : ¬Scalar.greater x 0 < 0 := by
  unfold Scalar.greater
  split
  · split
    · decide +kernel
    next notBelow => exact notBelow
  · decide +kernel

/-! ### Trimmed doubles -/

/-- More than the distance from the earth to the sun, in meters: `2 ^ 38`. -/
def trimmedRange : Float := 274877906944

/-- In the precision that stored values are kept in: a number, and unless it is very large, a finite
one that trimming leaves alone. -/
structure IsTrimmed (c : Float) : Prop where
  isNumber : c.isNaN = false
  isFinite : c.abs < trimmedRange → c.isFinite
  trim : c.abs < trimmedRange → trimFloat c = c

theorem unpack_trimmedRange :
    trimmedRange.toModel.unpack = .finite .positive (2 ^ 52) (-14) (by decide) := rfl

section
variable {c : Float} {sign : Sign} {mantissa : Nat} {exponent : Int}

theorem unpack_abs (stored : IsStored mantissa exponent)
    (unpacked : c.toModel.unpack = settle (ofParts sign mantissa exponent)) :
    c.abs.toModel.unpack = settle (ofParts .positive mantissa exponent) := by
  have absolute : c.abs.toModel.unpack =
      unpack .binary64 (pack .binary64 (UnpackedFloat.abs c.toModel.unpack)) := rfl
  have kept := unpack_pack_ofParts stored .positive
  rw [absolute, unpacked, settle_ofParts_eq, settle_ofParts_eq]
  split
  · exact unpack_pack_zero .positive
  next some =>
    split
    · exact unpack_pack_infinity .positive
    next small =>
      rw [settle_ofParts (by omega), ofParts, dif_neg some] at kept
      exact kept

/-- A number within the range has a small unit. -/
theorem unit_le_of_abs_lt (stored : IsStored mantissa exponent)
    (unpacked : c.toModel.unpack = settle (ofParts sign mantissa exponent))
    (small : c.abs < trimmedRange) : exponent ≤ -15 := by
  have less : UnpackedFloat.lt c.abs.toModel.unpack trimmedRange.toModel.unpack :=
    of_decide_eq_true small
  rw [unpack_abs stored unpacked, unpack_trimmedRange] at less
  by_contra coarse
  have leading : 2 ^ 52 ≤ mantissa := stored.leading.resolve_right (by omega)
  have some : mantissa ≠ 0 := by omega
  -- With a greater unit the number would be infinite, or have a greater exponent than the range.
  rw [settle_ofParts_eq, dif_neg (show mantissa ≠ 0 by omega)] at less
  split at less
  · simp [UnpackedFloat.lt, UnpackedFloat.compare] at less
  · simp only [UnpackedFloat.lt, UnpackedFloat.compare, beq_iff_eq, Option.some.injEq,
      Ordering.then_eq_lt, compare_lt_iff_lt, compare_eq_iff_eq] at less
    omega

theorem isTrimmed_trimFloat {x : Float} (finite : x.isFinite) : IsTrimmed (trimFloat x) := by
  obtain ⟨sign, mantissa, exponent, stored, unpacked⟩ := exists_parts finite
  obtain ⟨rounded, unit, stored', result, kept⟩ := exists_unpack_trimFloat stored unpacked
  refine ⟨?_, fun small => ?_, fun small => kept (unit_le_of_abs_lt stored' result small)⟩
  · change UnpackedFloat.isNaN (trimFloat x).toModel.unpack = false
    rw [result, settle_ofParts_eq]
    split
    · rfl
    · split <;> rfl
  · have fine := unit_le_of_abs_lt stored' result small
    change UnpackedFloat.isFinite (trimFloat x).toModel.unpack
    rw [result, settle_ofParts (by omega)]
    unfold ofParts
    split <;> rfl

end

end RoadSketch.Double
