import RoadSketch.Proofs.DoubleSteps

/-!
# Full turns in doubles

A full turn is divided into equal parts, and some of them are put together again. In doubles every
step of that is rounded, and the tenth of a degree that is found in the end is still the nearest one,
up to what the steps are off by. All parts together end where the turn begins, however many there
are. Counts that are too large for a double are infinite: then a part is nothing, and all of the
parts together are not a number.

## Main results

- `exists_nearestStep_part`: where some parts of a turn end.
- `nearestStep_turn`: all of them end where they begin.
-/
namespace RoadSketch.Double

open Float.Model (Format UnpackedFloat)
open Float.Model.UnpackedFloat
open FloatFormat (ofParts magnitude magnitude_nonneg unpack_pack_zero)

theorem unpack_mul {x y : Float} : (x * y).toModel.unpack = unpack .binary64 (pack .binary64
    (UnpackedFloat.mul .binary64 x.toModel.unpack y.toModel.unpack)) := rfl

theorem eq_of_unpack_eq {x y : Float} (same : x.toModel.unpack = y.toModel.unpack) : x = y := by
  rw [← ofModel_pack_unpack x, same, ofModel_pack_unpack]

theorem ofParts_eq_finite {sign : Sign} {mantissa : Nat} {exponent : Int} (positive : 0 < mantissa) :
    ofParts sign mantissa exponent = .finite sign mantissa exponent positive := dif_neg positive.ne'

theorem unpack_fullTurn : (360 : Float).toModel.unpack = ofParts .positive (2 ^ 44 * 360) (-44) := rfl

/-! ### Errors -/

/-- How far a number up to a few thousands is at most from what it was rounded from. -/
def roundingError : ℚ := 1 / 2 ^ 41

/-- A positive number up to a few thousands, off by some bound at most. -/
def IsAbout (x : Float) (v bound : ℚ) : Prop :=
  ∃ mantissa exponent, ∃ positive : 0 < mantissa, IsStored mantissa exponent ∧ exponent ≤ -40 ∧
    x.toModel.unpack = .finite .positive mantissa exponent positive ∧
    |magnitude mantissa exponent - v| ≤ bound

section
variable {x : Float} {v bound : ℚ} {mantissa : Nat} {exponent : Int}

/-- What is above half of the smallest number is not rounded to zero. -/
theorem pos_of_rounded {w : ℚ} (stored : IsStored mantissa exponent)
    (near : |magnitude mantissa exponent - w| ≤ 2 ^ exponent / 2)
    (least : 2 ^ (-1074 : ℤ) / 2 < w) : 0 < mantissa := by
  refine Nat.pos_of_ne_zero ?_
  rintro rfl
  obtain rfl : exponent = -1074 := stored.leading.resolve_left (by decide)
  rw [FloatFormat.magnitude_zero] at near
  have above := (abs_le.mp near).1
  linarith

theorem leastUnit_le_magnitude (stored : IsStored mantissa exponent) (positive : 0 < mantissa) :
    2 ^ (-1074 : ℤ) ≤ magnitude mantissa exponent := by
  have count : (1 : ℚ) ≤ mantissa := by exact_mod_cast positive
  have unit : (2 : ℚ) ^ (-1074 : ℤ) ≤ 2 ^ exponent := zpow_le_zpow_right₀ one_le_two stored.least
  exact unit.trans (le_mul_of_one_le_left (by positivity) count)

/-- Rounding a number up to a few thousands adds little to what it is off by. -/
theorem isAbout_of_rounded {w : ℚ} (stored : IsStored mantissa exponent)
    (near : |magnitude mantissa exponent - w| ≤ 2 ^ exponent / 2)
    (least : 2 ^ (-1074 : ℤ) / 2 < w) (small : w < 4096) (close : |w - v| ≤ bound)
    (unpacked : x.toModel.unpack = settle (ofParts .positive mantissa exponent)) :
    IsAbout x v (bound + roundingError) := by
  have positive := pos_of_rounded stored near least
  have fine : exponent ≤ -40 :=
    unit_le_of_near stored near (by decide) (small.trans (by norm_num))
  have halves : (2 : ℚ) ^ exponent / 2 ≤ roundingError :=
    calc (2 : ℚ) ^ exponent / 2 ≤ 2 ^ (-40 : ℤ) / 2 := by
          gcongr
          exact one_le_two
      _ = roundingError := by norm_num [roundingError]
  refine ⟨mantissa, exponent, positive, stored, fine, ?_, ?_⟩
  · rw [unpacked, settle_ofParts (by omega), ofParts_eq_finite positive]
  · calc |magnitude mantissa exponent - v| ≤ |magnitude mantissa exponent - w| + |w - v| :=
          abs_sub_le _ _ _
      _ ≤ bound + roundingError := by linarith

theorem IsAbout.exists_value (about : IsAbout x v bound) :
    ∃ w, IsValue x w ∧ 0 ≤ w ∧ |w - v| ≤ bound := by
  obtain ⟨mantissa, exponent, positive, stored, -, unpacked, close⟩ := about
  rw [← ofParts_eq_finite] at unpacked
  exact ⟨_, isValue_of_unpack stored unpacked, magnitude_nonneg _ _, close⟩

end

/-! ### Parts of a turn -/

/-- A positive whole number has all digits of a mantissa, and is not made much smaller. -/
structure IsCount (n mantissa : Nat) (exponent : Int) : Prop where
  stored : IsStored mantissa exponent
  digits : 2 ^ 52 ≤ mantissa
  size : 1 / 2 < magnitude mantissa exponent
  unpacked : (Float.ofNat n).toModel.unpack = settle (ofParts .positive mantissa exponent)

theorem isCount_of_near {n mantissa : Nat} {exponent : Int} (positive : 0 < n)
    (stored : IsStored mantissa exponent)
    (near : |magnitude mantissa exponent - n| ≤ 2 ^ exponent / 2)
    (unpacked : (Float.ofNat n).toModel.unpack = settle (ofParts .positive mantissa exponent)) :
    IsCount n mantissa exponent := by
  have some : (1 : ℚ) ≤ n := by exact_mod_cast positive
  have above := (abs_le.mp near).1
  have digits : 2 ^ 52 ≤ mantissa := by
    -- With the smallest unit there is, it would be below one half.
    refine stored.leading.resolve_right fun least => ?_
    have tiny : magnitude mantissa exponent < 2 ^ (-1 : ℤ) :=
      (magnitude_lt stored).trans_le (zpow_le_zpow_right₀ one_le_two (by omega))
    have unit : (2 : ℚ) ^ exponent ≤ 2 ^ (-1 : ℤ) := zpow_le_zpow_right₀ one_le_two (by omega)
    norm_num at tiny unit
    linarith
  refine ⟨stored, digits, ?_, unpacked⟩
  have part : 2 * 2 ^ exponent ≤ magnitude mantissa exponent := by
    refine mul_le_mul_of_nonneg_right ?_ (by positivity)
    exact_mod_cast (show 2 ≤ mantissa by omega)
  linarith

/-- A whole number with no more digits than a mantissa is stored as it is. -/
theorem exists_isCount_of_lt {n : Nat} (positive : 0 < n) (short : n < 2 ^ 53) :
    ∃ mantissa exponent, IsCount n mantissa exponent ∧ exponent ≤ 971 ∧
      magnitude mantissa exponent = n := by
  obtain ⟨stored, value⟩ := isWhole_shifted positive short
  have none : magnitude (2 ^ (52 - n.log2) * n) (-(52 - n.log2 : Nat)) - n = 0 :=
    sub_eq_zero_of_eq value
  refine ⟨_, _, isCount_of_near positive stored ?_ ?_, by omega, value⟩
  · rw [none, abs_zero]
    positivity
  · exact (unpack_ofNat short).trans (settle_ofParts (by omega)).symm

theorem exists_isCount {n : Nat} (positive : 0 < n) :
    ∃ mantissa exponent, IsCount n mantissa exponent := by
  by_cases short : n < 2 ^ 53
  · obtain ⟨mantissa, exponent, count, -⟩ := exists_isCount_of_lt positive short
    exact ⟨mantissa, exponent, count⟩
  · obtain ⟨mantissa, exponent, stored, near, unpacked⟩ :=
      exists_unpack_ofScientific positive (fun fast => short fast.1) (Nat.zero_le 2048)
    rw [pow_zero, mul_one] at near
    exact ⟨mantissa, exponent, isCount_of_near positive stored near unpacked⟩

theorem IsCount.unpack_eq {n mantissa : Nat} {exponent : Int} (count : IsCount n mantissa exponent)
    (small : exponent ≤ 971) : (Float.ofNat n).toModel.unpack =
      .finite .positive mantissa exponent (by have := count.digits; omega) := by
  rw [count.unpacked, settle_ofParts small, ofParts_eq_finite]

section
variable {n i mantissa mantissa' rounded : Nat} {exponent exponent' unit : Int}

/-- No number that is stored is so large that it brings the smallest unit near to one. -/
theorem magnitude_mul_leastUnit (stored : IsStored mantissa exponent) (small : exponent ≤ 971) :
    magnitude mantissa exponent * 2 ^ (-1074 : ℤ) ≤ 2 ^ (-50 : ℤ) := by
  have below : magnitude mantissa exponent ≤ 2 ^ (1024 : ℤ) :=
    (magnitude_lt stored).le.trans (zpow_le_zpow_right₀ one_le_two (by omega))
  calc magnitude mantissa exponent * 2 ^ (-1074 : ℤ) ≤ 2 ^ (1024 : ℤ) * 2 ^ (-1074 : ℤ) := by gcongr
    _ = 2 ^ (-50 : ℤ) := by rw [← zpow_add₀ two_ne_zero]; rfl

/-- A part of a turn is a positive double, which was rounded from the exact quotient. -/
theorem exists_unpack_part (count : IsCount n mantissa exponent) (small : exponent ≤ 971) :
    ∃ rounded unit, IsStored rounded unit ∧ 0 < rounded ∧
      |magnitude rounded unit - 360 / magnitude mantissa exponent| ≤ 2 ^ unit / 2 ∧
      (360 / Float.ofNat n).toModel.unpack = ofParts .positive rounded unit := by
  have size := count.size
  obtain ⟨rounded, unit, kept, near, result⟩ :=
    exists_unpack_div unpack_fullTurn (count.unpack_eq small)
  have turn : magnitude (2 ^ 44 * 360) (-44) = 360 := by norm_num [magnitude]
  rw [turn] at near
  have most : 360 / magnitude mantissa exponent ≤ 720 := by
    rw [div_le_iff₀ (by linarith)]
    linarith
  have fine : unit ≤ -40 := unit_le_of_near kept near (by decide) (most.trans_lt (by norm_num))
  have same : Sign.positive / Sign.positive = Sign.positive := rfl
  rw [same, settle_ofParts (by omega)] at result
  refine ⟨rounded, unit, kept, pos_of_rounded kept near ?_, near, result⟩
  have tiny := magnitude_mul_leastUnit count.stored small
  have bound : (2 : ℚ) ^ (-50 : ℤ) ≤ 1 := by norm_num
  rw [lt_div_iff₀ (by linarith)]
  linarith

/-- What a part of a turn is off by stays small when all parts are put together. -/
theorem magnitude_mul_unit_le (count : IsCount n mantissa exponent) (small : exponent ≤ 971)
    (kept : IsStored rounded unit)
    (near : |magnitude rounded unit - 360 / magnitude mantissa exponent| ≤ 2 ^ unit / 2) :
    2 ^ unit / 2 * magnitude mantissa exponent ≤ roundingError := by
  have size := count.size
  -- A part has all digits, or the smallest unit there is.
  rcases kept.leading with normal | rfl
  · have digits : 2 ^ 52 * 2 ^ unit ≤ magnitude rounded unit := by
      refine mul_le_mul_of_nonneg_right ?_ (by positivity)
      exact_mod_cast normal
    have part : 2 ^ 52 * 2 ^ unit - 2 ^ unit / 2 ≤ 360 / magnitude mantissa exponent := by
      linarith [(abs_le.mp near).2]
    rw [le_div_iff₀ (by linarith)] at part
    rw [roundingError]
    norm_num at part ⊢
    linarith
  · have tiny := magnitude_mul_leastUnit count.stored small
    rw [roundingError]
    generalize (2 : ℚ) ^ (-1074 : ℤ) = least at tiny
    norm_num at tiny ⊢
    linarith

theorem div_mul_le_turn {all some : ℚ} (positive : 0 < all) (within : some ≤ all) :
    360 / all * some ≤ 360 := by
  rw [div_mul_eq_mul_div, div_le_iff₀ positive]
  linarith

/-- Some parts of a turn together are off by little. -/
theorem isAbout_parts (count : IsCount n mantissa exponent) (small : exponent ≤ 971)
    (part : IsCount i mantissa' exponent') (small' : exponent' ≤ 971)
    (within : magnitude mantissa' exponent' ≤ magnitude mantissa exponent) :
    IsAbout (360 / Float.ofNat n * Float.ofNat i)
      (360 / magnitude mantissa exponent * magnitude mantissa' exponent') (2 * roundingError) := by
  have size := count.size
  have size' := part.size
  obtain ⟨rounded, unit, kept, positive, near, quotient⟩ := exists_unpack_part count small
  obtain ⟨product, unit', kept', near', result⟩ := exists_unpack_mul quotient
    (part.unpack_eq small') (hasDigits_mul positive part.digits)
  have close : |magnitude rounded unit * magnitude mantissa' exponent' -
      360 / magnitude mantissa exponent * magnitude mantissa' exponent'| ≤ roundingError := by
    rw [← sub_mul, abs_mul, abs_of_pos (show 0 < magnitude mantissa' exponent' by linarith)]
    calc _ ≤ 2 ^ unit / 2 * magnitude mantissa' exponent' := by gcongr
      _ ≤ 2 ^ unit / 2 * magnitude mantissa exponent := by gcongr
      _ ≤ roundingError := magnitude_mul_unit_le count small kept near
  rw [two_mul]
  refine isAbout_of_rounded kept' near' ?_ ?_ close result
  · have least := leastUnit_le_magnitude kept positive
    calc (2 : ℚ) ^ (-1074 : ℤ) / 2 = 2 ^ (-1074 : ℤ) * (1 / 2) := by ring
      _ < 2 ^ (-1074 : ℤ) * magnitude mantissa' exponent' := by gcongr
      _ ≤ magnitude rounded unit * magnitude mantissa' exponent' := by gcongr
  · have share := div_mul_le_turn (show 0 < magnitude mantissa exponent by linarith) within
    have error : roundingError < 1 := by norm_num [roundingError]
    linarith [(abs_le.mp close).2]

end

/-! ### Where parts of a turn end -/

theorem IsAbout.exists_nearestStep {x : Float} {v : ℚ} (about : IsAbout x v (2 * roundingError))
    (within : v ≤ 360) : ∃ k : ℤ, nearestStep x = (k % turnSteps).toNat ∧
      |v * 10 - k| ≤ 1 / 2 + 28 * roundingError := by
  have error : roundingError = 1 / 2 ^ 41 := rfl
  -- What the product is off by grows by ten, and finding the step adds a tiny part of the angle.
  obtain ⟨w, value, nonneg, close⟩ := about.exists_value
  rw [abs_le] at close
  have size : |w * 10| ≤ 3601 := by
    rw [abs_of_nonneg (by linarith)]
    linarith
  obtain ⟨k, found, near⟩ := Double.exists_nearestStep value (by linarith)
  refine ⟨k, found, ?_⟩
  rw [abs_le] at near ⊢
  constructor <;> linarith

theorem nearestStep_start {x : Float} {rounded : Nat} {unit : Int}
    (unpacked : x.toModel.unpack = ofParts .positive rounded unit) :
    nearestStep (x * Float.ofNat 0) = 0 := by
  have nothing : x * Float.ofNat 0 = 0 := by
    refine eq_of_unpack_eq ?_
    have zero : UnpackedFloat.mul .binary64 (ofParts .positive rounded unit) (.zero .positive) =
        .zero .positive := by
      unfold ofParts
      split <;> rfl
    have none : (Float.ofNat 0).toModel.unpack = .zero .positive := rfl
    rw [unpack_mul, unpacked, none, zero]
    exact unpack_pack_zero .positive
  rw [nothing]
  decide +kernel

/-- Parts that are nothing begin and end at the start of the turn. -/
theorem nearestStep_infinite {x : Float} (unpacked : x.toModel.unpack = .infinity .positive) :
    nearestStep (360 / x * x) = 0 ∧ nearestStep (360 / x * Float.ofNat 0) = 0 := by
  have part : 360 / x = 0 := by
    refine eq_of_unpack_eq ?_
    have quotient : (360 / x).toModel.unpack = unpack .binary64 (pack .binary64
        (UnpackedFloat.div .binary64 (360 : Float).toModel.unpack x.toModel.unpack)) := rfl
    rw [quotient, unpacked]
    rfl
  have total : 0 * x = Float.ofModel (.pack .notANumber) := by
    refine eq_of_unpack_eq ?_
    rw [unpack_mul, unpacked]
    rfl
  rw [part, total]
  exact ⟨by decide +kernel, by decide +kernel⟩

/-- All parts of a turn together end where it begins. -/
theorem nearestStep_turn {n : Nat} (positive : 0 < n) :
    nearestStep (360 / Float.ofNat n * Float.ofNat n) =
      nearestStep (360 / Float.ofNat n * Float.ofNat 0) := by
  obtain ⟨mantissa, exponent, count⟩ := exists_isCount positive
  -- Counts with a greater exponent are infinite.
  by_cases small : exponent ≤ 971
  · obtain ⟨rounded, unit, -, -, -, part⟩ := exists_unpack_part count small
    have size := count.size
    have about := isAbout_parts count small count small le_rfl
    rw [div_mul_cancel₀ _ (by linarith)] at about
    obtain ⟨k, found, near⟩ := about.exists_nearestStep le_rfl
    have whole : k = 3600 := by
      rw [roundingError, abs_le] at near
      have low : (3599 : ℚ) < k := by linarith
      have high : (k : ℚ) < 3601 := by linarith
      have above : 3599 < k := by exact_mod_cast low
      have below : k < 3601 := by exact_mod_cast high
      omega
    rw [found, whole, nearestStep_start part]
    rfl
  · have digits := count.digits
    have infinite : (Float.ofNat n).toModel.unpack = .infinity .positive := by
      rw [count.unpacked, settle_ofParts_eq, dif_neg (by omega), if_pos (by omega)]
    obtain ⟨finish, start⟩ := nearestStep_infinite infinite
    exact finish.trans start.symm

/-- Some parts of a turn together end at the nearest tenth of a degree, up to what the steps on the
way there are off by. -/
theorem exists_nearestStep_part {n i : Nat} (positive : 0 < n) (short : n < 2 ^ 53) (within : i ≤ n) :
    ∃ k : ℤ, nearestStep (360 / Float.ofNat n * Float.ofNat i) = (k % turnSteps).toNat ∧
      |(3600 * i / n : ℚ) - k| ≤ 1 / 2 + 28 * roundingError := by
  obtain ⟨mantissa, exponent, count, small, value⟩ := exists_isCount_of_lt positive short
  rcases Nat.eq_zero_or_pos i with rfl | some
  · obtain ⟨rounded, unit, -, -, -, part⟩ := exists_unpack_part count small
    refine ⟨0, nearestStep_start part, ?_⟩
    norm_num [roundingError]
  · obtain ⟨mantissa', exponent', part, small', value'⟩ :=
      exists_isCount_of_lt some (within.trans_lt short)
    have ordered : (i : ℚ) ≤ n := by exact_mod_cast within
    have about := isAbout_parts count small part small' (by rw [value, value']; exact ordered)
    rw [value, value'] at about
    have share := div_mul_le_turn (show (0 : ℚ) < n by exact_mod_cast positive) ordered
    obtain ⟨k, found, near⟩ := about.exists_nearestStep share
    refine ⟨k, found, ?_⟩
    convert near using 3
    ring

end RoadSketch.Double
