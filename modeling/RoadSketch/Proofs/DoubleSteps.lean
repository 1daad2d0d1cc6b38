import RoadSketch.Polyline.Ring
import RoadSketch.Proofs.DoubleTrimming
import RoadSketch.Proofs.Saturation

/-!
# Steps of angles in doubles

Between an angle and the tenth of a degree that is nearest to it, a product and a sum are rounded.
Each of the two is off by a tiny part of itself. So the tenth that is found is the nearest one, up to
a tiny part of the angle, whatever the sign of the angle is.

## Main result

`exists_nearestStep`: where the step of a finite angle is.
-/
namespace RoadSketch.Double

open Float.Model (Format UnpackedFloat)
open Float.Model.UnpackedFloat
open FloatFormat (ofParts magnitude magnitude_nonneg reading isNegative)

/-! ### Values -/

/-- A finite double, and the number that it stands for. -/
def IsValue (x : Float) (v : ℚ) : Prop := (BinaryValue.ofDouble x).number? = some v

section
variable {x : Float} {v : ℚ} {sign : Sign} {mantissa : Nat} {exponent : Int}

theorem number?_finite (sign : Sign) (mantissa : Nat) (exponent : Int) :
    (BinaryValue.finite (isNegative sign) mantissa exponent).number? =
      some (amount sign mantissa exponent) := by
  cases sign <;> simp [BinaryValue.number?, isNegative, amount, Sign.apply]

theorem isValue_of_unpack (stored : IsStored mantissa exponent)
    (unpacked : x.toModel.unpack = ofParts sign mantissa exponent) :
    IsValue x (amount sign mantissa exponent) := by
  rw [IsValue, ofDouble_eq_reading, unpacked, reading_ofParts stored, number?_finite]

theorem IsValue.exists_parts (value : IsValue x v) :
    ∃ sign mantissa exponent, IsStored mantissa exponent ∧
      x.toModel.unpack = ofParts sign mantissa exponent ∧ v = amount sign mantissa exponent := by
  have finite : x.isFinite := by
    rw [IsValue, ofDouble_eq_reading] at value
    change x.toModel.unpack.isFinite
    cases unpacked : x.toModel.unpack with
    | notANumber =>
      rw [unpacked] at value
      cases value
    | infinity sign =>
      rw [unpacked] at value
      cases value
    | zero sign => rfl
    | finite sign mantissa exponent positive => rfl
  obtain ⟨sign, mantissa, exponent, stored, unpacked⟩ := Double.exists_parts finite
  have same := (isValue_of_unpack stored unpacked).symm.trans value
  exact ⟨sign, mantissa, exponent, stored, unpacked, (Option.some.inj same).symm⟩

/-! ### Rounding -/

/-- A double that a number was rounded to. -/
def IsRounded (x : Float) (w : ℚ) : Prop :=
  ∃ v, IsValue x v ∧ |v - w| ≤ |w| / 2 ^ 52 + 2 ^ (-1074 : ℤ)

theorem abs_amount (sign : Sign) (mantissa : Nat) (exponent : Int) :
    |amount sign mantissa exponent| = magnitude mantissa exponent := by
  have size := magnitude_nonneg mantissa exponent
  cases sign
  · rw [amount_negative, abs_neg, abs_of_nonneg size]
  · exact abs_of_nonneg size

/-- Half of the last unit is a tiny part of a number, unless it is half of the smallest unit. -/
theorem half_unit_le {w : ℚ} (stored : IsStored mantissa exponent)
    (near : |magnitude mantissa exponent - w| ≤ 2 ^ exponent / 2) :
    2 ^ exponent / 2 ≤ w / 2 ^ 52 + 2 ^ (-1074 : ℤ) := by
  have close := (abs_le.mp near).2
  have tiny : (0 : ℚ) < 2 ^ (-1074 : ℤ) := by positivity
  rcases stored.leading with normal | rfl
  · have digits : 2 ^ 52 * 2 ^ exponent ≤ magnitude mantissa exponent := by
      refine mul_le_mul_of_nonneg_right ?_ (by positivity)
      exact_mod_cast normal
    have unit : (0 : ℚ) < 2 ^ exponent := by positivity
    linarith
  · have nonneg := magnitude_nonneg mantissa (-1074)
    linarith

theorem isRounded_of_near {w : ℚ} (stored : IsStored mantissa exponent)
    (near : |amount sign mantissa exponent - w| ≤ 2 ^ exponent / 2) (small : |w| < 2 ^ 64)
    (unpacked : x.toModel.unpack = settle (ofParts sign mantissa exponent)) : IsRounded x w := by
  have size : |magnitude mantissa exponent - (|w|)| ≤ 2 ^ exponent / 2 := by
    rw [← abs_amount sign]
    exact (abs_abs_sub_abs_le _ _).trans near
  have fine : exponent ≤ 12 := by
    refine unit_le_of_near stored size (by decide) (small.trans_le ?_)
    norm_num
  rw [settle_ofParts (by omega)] at unpacked
  exact ⟨_, isValue_of_unpack stored unpacked, near.trans (half_unit_le stored size)⟩

end

/-! ### A product and a sum -/

theorem unpack_ten : (10 : Float).toModel.unpack =
    .finite .positive (2 ^ 49 * 10) (-49) (by decide) := rfl

theorem unpack_half : (1 / 2 : Float).toModel.unpack =
    .finite .positive (2 ^ 52) (-53) (by decide) := rfl

section
variable {x : Float} {v : ℚ}

theorem IsValue.isRounded_mul_ten (value : IsValue x v) (small : |v * 10| < 2 ^ 64) :
    IsRounded (x * 10) (v * 10) := by
  obtain ⟨sign, mantissa, exponent, stored, unpacked, rfl⟩ := value.exists_parts
  obtain ⟨rounded, unit, kept, near, result⟩ :=
    exists_unpack_mul_factor stored unpacked unpack_ten (by decide) (by decide)
  have ten : magnitude (2 ^ 49 * 10) (-49) = 10 := by norm_num [magnitude]
  rw [ten] at near
  refine isRounded_of_near kept ?_ small result
  cases sign
  · have opposite : -magnitude rounded unit - -magnitude mantissa exponent * 10 =
        -(magnitude rounded unit - magnitude mantissa exponent * 10) := by ring
    rwa [amount_negative, amount_negative, opposite, abs_neg]
  · exact near

theorem IsValue.isRounded_add_half (value : IsValue x v) (small : |v + 1 / 2| < 2 ^ 64) :
    IsRounded (x + 1 / 2) (v + 1 / 2) := by
  obtain ⟨sign, mantissa, exponent, stored, unpacked, rfl⟩ := value.exists_parts
  obtain ⟨side, rounded, unit, kept, near, result⟩ := exists_unpack_add unpacked unpack_half
  have half : amount .positive (2 ^ 52) (-53) = 1 / 2 := by norm_num [amount, Sign.apply]
  rw [half] at near
  exact isRounded_of_near kept near small result

/-! ### The nearest step -/

theorem leastUnit_le : (2 : ℚ) ^ (-1074 : ℤ) ≤ 1 / 2 ^ 60 :=
  (zpow_le_zpow_right₀ one_le_two (show (-1074 : ℤ) ≤ -60 by decide)).trans_eq (by norm_num)

theorem abs_add_half_le (a b : ℚ) : |b + 1 / 2| ≤ |a| + |b - a| + 1 / 2 := by
  have parts := abs_add_three a (b - a) (1 / 2)
  rwa [add_sub_cancel, abs_of_pos (show (0 : ℚ) < 1 / 2 by norm_num)] at parts

/-- What a product is off by is part of a sum, which is off by a part of that once more. -/
theorem abs_sub_le_of_rounded_twice {a product sum : ℚ}
    (first : |product - a| ≤ |a| / 2 ^ 52 + 2 ^ (-1074 : ℤ))
    (second : |sum - (product + 1 / 2)| ≤ |product + 1 / 2| / 2 ^ 52 + 2 ^ (-1074 : ℤ)) :
    |sum - (a + 1 / 2)| ≤ (|a| + 1) / 2 ^ 50 := by
  have size := abs_add_half_le a product
  have nonneg := abs_nonneg a
  have tiny := leastUnit_le
  have path : |sum - (a + 1 / 2)| ≤ |sum - (product + 1 / 2)| + |product - a| := by
    have parts := abs_sub_le sum (product + 1 / 2) (a + 1 / 2)
    rwa [add_sub_add_right_eq_sub] at parts
  linarith

/-- The step of an angle is the nearest one, up to a tiny part of the angle. -/
theorem exists_nearestStep (value : IsValue x v) (small : |v * 10| < 2 ^ 61) :
    ∃ k : ℤ, nearestStep x = (k % turnSteps).toNat ∧
      |v * 10 - k| ≤ 1 / 2 + (|v * 10| + 1) / 2 ^ 50 := by
  have tiny := leastUnit_le
  obtain ⟨product, tenths, near⟩ := value.isRounded_mul_ten (by linarith)
  have size := abs_add_half_le (v * 10) product
  obtain ⟨sum, stands, close⟩ := tenths.isRounded_add_half (by linarith)
  have off := abs_sub_le_of_rounded_twice near close
  obtain ⟨low, high⟩ := abs_le.mp off
  obtain ⟨least, most⟩ := abs_lt.mp small
  have floor : Scalar.floorInt (x * 10 + 1 / 2) = ⌊sum⌋ := by
    rw [floorInt_eq stands, saturate_floor (abs_lt.mpr ⟨by linarith, by linarith⟩)]
  refine ⟨⌊sum⌋, by rw [nearestStep, floor], ?_⟩
  have below := Int.floor_le sum
  have above := Int.lt_floor_add_one sum
  rw [abs_le]
  constructor <;> linarith

end

end RoadSketch.Double
