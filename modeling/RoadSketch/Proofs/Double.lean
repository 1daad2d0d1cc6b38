import Mathlib
import RoadSketch.Double
import RoadSketch.Proofs.FloatFormat

/-!
# Multiplying doubles by one

One times a double is that double, bit for bit, whatever it is: zeros keep their sign, and there is
only one double that is not a number.

A product of doubles is unpacked, multiplied, rounded and packed again. By one, the mantissa is only
shifted, rounding shifts it back without loss, and packing undoes unpacking.
-/
namespace RoadSketch.Double

open Float.Model (Format totalExponent)
open Float.Model.UnpackedFloat

/-- The mantissas and exponents of the doubles that are not zero. -/
structure IsStored (mantissa : Nat) (exponent : Int) : Prop where
  below : mantissa < 2 ^ 53
  least : -1074 ≤ exponent
  leading : 2 ^ 52 ≤ mantissa ∨ exponent = -1074

theorem isStored_iff {mantissa : Nat} {exponent : Int} :
    FloatFormat.IsStored .binary64 mantissa exponent ↔ IsStored mantissa exponent :=
  ⟨fun ⟨below, least, leading⟩ => ⟨below, least, leading⟩,
    fun ⟨below, least, leading⟩ => ⟨below, least, leading⟩⟩

theorem isStored_of_unpack {bits : BitVec Format.binary64.numBits} {sign : Sign} {mantissa : Nat}
    {exponent : Int} {positive : 0 < mantissa}
    (unpacked : unpack .binary64 bits = .finite sign mantissa exponent positive) :
    IsStored mantissa exponent :=
  isStored_iff.mp (FloatFormat.isStored_of_unpack unpacked)

theorem ofModel_pack_unpack (x : Float) : Float.ofModel (.pack x.toModel.unpack) = x := by
  obtain ⟨⟨bits, valid⟩⟩ := x
  refine congrArg Float.ofModel ?_
  rw [Float.Model.mk.injEq]
  exact UInt64.eq_of_toBitVec_eq (pack_unpack_of_valid valid)

/-! ### The product -/

theorem log2_two_pow_mul (n : Nat) {m : Nat} (positive : 0 < m) :
    (2 ^ n * m).log2 = n + m.log2 := by
  have power : 0 < 2 ^ n := Nat.two_pow_pos n
  rw [Nat.log2_eq_iff (Nat.mul_pos power positive).ne', Nat.add_assoc, Nat.pow_add, Nat.pow_add]
  exact ⟨Nat.mul_le_mul_left _ (Nat.log2_self_le positive.ne'),
    Nat.mul_lt_mul_of_pos_left Nat.lt_log2_self power⟩

theorem shiftRight_two_pow_mul (n m : Nat) :
    (ExtendedMantissa.mk (2 ^ n * m) false false) >>> n = ⟨m, false, false⟩ := by
  change Nat.repeat ExtendedMantissa.shiftRightOne n _ = _
  induction n generalizing m with
  | zero => simp [Nat.repeat]
  | succ n ih =>
    have split : 2 ^ (n + 1) * m = 2 ^ n * (2 * m) := by ring
    rw [Nat.repeat, split, ih]
    simp [ExtendedMantissa.shiftRightOne]

/-- Rounding brings a shifted mantissa back to where it is stored. -/
theorem shiftToTargetExponent_shifted {mantissa : Nat} {exponent : Int}
    (stored : IsStored mantissa exponent) (positive : 0 < mantissa) (n : Nat) :
    shiftToTargetExponent .binary64 (2 ^ n * mantissa) (exponent - n) .exact =
      (⟨mantissa, false, false⟩, exponent) := by
  obtain ⟨below, least, leading⟩ := stored
  have total : totalExponent (2 ^ n * mantissa) (exponent - n) = mantissa.log2 + 1 + exponent := by
    rw [totalExponent, log2_two_pow_mul n positive]
    push_cast
    ring
  have high : mantissa.log2 < 53 := (Nat.log2_lt positive.ne').mpr below
  have target : Format.binary64.targetExponent (mantissa.log2 + 1 + exponent) = exponent := by
    change max ((mantissa.log2 : Int) + 1 + exponent - 53) (-1074) = exponent
    rcases leading with normal | rfl
    · have low : 52 ≤ mantissa.log2 := (Nat.le_log2 positive.ne').mpr normal
      omega
    · omega
  have amount : (exponent - (exponent - n)).toNat = n := by omega
  rw [shiftToTargetExponent, total, target, shiftToExponent, amount]
  simp [ExtendedMantissa.ofMantissaAndAccuracy, shiftRight_two_pow_mul]

theorem roundWithAccuracy_shifted {mantissa : Nat} {exponent : Int}
    (stored : IsStored mantissa exponent) (positive : 0 < mantissa) (sign : Sign) (n : Nat) :
    roundWithAccuracy .binary64 sign (2 ^ n * mantissa) (exponent - n) .exact =
      .finite sign mantissa exponent positive := by
  have settled := shiftToTargetExponent_shifted stored positive 0
  simp only [Nat.pow_zero, Nat.one_mul, Nat.cast_zero, Int.sub_zero] at settled
  simp [roundWithAccuracy, shiftToTargetExponent_shifted stored positive,
    ExtendedMantissa.roundedMantissa, ExtendedMantissa.accuracy, Accuracy.roundToNearestEven,
    settled, positive.ne']

theorem unpack_one : (Scalar.ofNat 1 : Float).toModel.unpack =
    .finite .positive (2 ^ 52) (-52) (by decide) := rfl

theorem one_mul_unpacked (bits : BitVec Format.binary64.numBits) :
    mul .binary64 (.finite .positive (2 ^ 52) (-52) (by decide)) (unpack .binary64 bits) =
      unpack .binary64 bits := by
  cases unpacked : unpack .binary64 bits with
  | notANumber => rfl
  | infinity sign => cases sign <;> rfl
  | zero sign => cases sign <;> rfl
  | finite sign mantissa exponent positive =>
    have rounded := roundWithAccuracy_shifted (isStored_of_unpack unpacked) positive sign 52
    have same : Sign.positive * sign = sign := by cases sign <;> rfl
    have shifted : -52 + exponent = exponent - (52 : Nat) := by omega
    simp only [mul, same, shifted]
    exact rounded

/-- One times a double is that double. -/
theorem one_mul (x : Float) : (1 : Float) * x = x := by
  have kept : mul .binary64 (Scalar.ofNat 1 : Float).toModel.unpack x.toModel.unpack =
      x.toModel.unpack := by
    rw [unpack_one]
    exact one_mul_unpacked x.toModel.toBits.toBitVec
  have packed := ofModel_pack_unpack x
  rw [← kept] at packed
  exact packed

end RoadSketch.Double
