import RoadSketch.Proofs.Lengths
import RoadSketch.Proofs.Order

/-!
# Doubles that are numbers

Rounding a result and storing it never make something of it that is not a number. So only where
infinities meet does an operation on numbers have a result that is none, and the squared distance
from a finite point always is a number.
-/
namespace RoadSketch

namespace Double

open Float.Model (Format UnpackedFloat)
open Float.Model.UnpackedFloat
open FloatFormat (unpack_pack_infinity unpack_pack_zero neg_one_ne_zero)

variable {spec : Format} {u v : UnpackedFloat}

/-! ### Storing and rounding -/

/-- Only under the greatest exponent something is stored that is not a number. -/
theorem unpack_packComponents_ne (sign : Sign) {exponent : BitVec spec.exponentBits}
    (usual : exponent ≠ -1#_) (mantissa : BitVec spec.mantissaBitsWithoutImplicit) :
    unpack spec (packComponents spec sign exponent mantissa) ≠ .notANumber := by
  simp only [unpack, unpackExponent_packComponents, if_neg usual]
  split
  · split <;> exact nofun
  · exact nofun

theorem unpack_pack_ne (number : u ≠ .notANumber) : unpack spec (pack spec u) ≠ .notANumber := by
  cases u with
  | notANumber => exact absurd rfl number
  | infinity sign =>
    rw [unpack_pack_infinity]
    exact nofun
  | zero sign =>
    rw [unpack_pack_zero]
    exact nofun
  | finite sign mantissa exponent positive =>
    simp only [pack]
    split
    next =>
      have large : unpack spec (packedInfinity spec sign) = .infinity sign :=
        unpack_pack_infinity sign
      rw [large]
      exact nofun
    next small =>
      split
      · refine unpack_packComponents_ne sign (fun most => ?_) _
        have same := congrArg BitVec.toNat most
        rw [BitVec.toNat_ofNat, BitVec.neg_one_eq_allOnes, BitVec.toNat_allOnes,
          Nat.mod_eq_of_lt (by omega)] at same
        omega
      · exact unpack_packComponents_ne sign (neg_one_ne_zero spec).symm _

theorem roundWithAccuracy_ne (sign : Sign) (mantissa : Nat) (exponent : Int) (accuracy : Accuracy) :
    roundWithAccuracy spec sign mantissa exponent accuracy ≠ .notANumber := by
  simp only [roundWithAccuracy]
  split <;> rintro ⟨⟩

theorem normalize_ne (mantissa exponent : Int) (sign : Sign) :
    UnpackedFloat.normalize spec mantissa exponent sign ≠ .notANumber := by
  unfold UnpackedFloat.normalize
  split
  · exact roundWithAccuracy_ne _ _ _ _
  · exact nofun
  · exact roundWithAccuracy_ne _ _ _ _

/-! ### Operations on unpacked doubles -/

theorem sub_ne (number : u ≠ .notANumber) (finite : v.isFinite) :
    UnpackedFloat.sub spec u v ≠ .notANumber := by
  cases v with
  | notANumber => cases finite
  | infinity sign => cases finite
  | zero other =>
    cases u with
    | notANumber => exact absurd rfl number
    | infinity sign => exact nofun
    | zero sign => cases sign <;> cases other <;> exact nofun
    | finite sign mantissa exponent positive => exact nofun
  | finite other mantissa' exponent' positive' =>
    cases u with
    | notANumber => exact absurd rfl number
    | infinity sign => exact nofun
    | zero sign => exact nofun
    | finite sign mantissa exponent positive => exact normalize_ne _ _ _

theorem mul_self_ne (number : u ≠ .notANumber) : UnpackedFloat.mul spec u u ≠ .notANumber := by
  cases u with
  | notANumber => exact absurd rfl number
  | infinity sign => exact nofun
  | zero sign => exact nofun
  | finite sign mantissa exponent positive => exact roundWithAccuracy_ne _ _ _ _

/-- Infinities of the same sign add up to one of them. -/
theorem add_ne (left : u ≠ .notANumber) (leftUnsigned : IsUnsigned u) (right : v ≠ .notANumber)
    (rightUnsigned : IsUnsigned v) : UnpackedFloat.add spec u v ≠ .notANumber := by
  cases u with
  | notANumber => exact absurd rfl left
  | infinity sign =>
    cases leftUnsigned
    cases v with
    | notANumber => exact absurd rfl right
    | infinity other =>
      cases rightUnsigned
      exact nofun
    | zero other => exact nofun
    | finite => exact nofun
  | zero sign =>
    cases leftUnsigned
    cases v with
    | notANumber => exact absurd rfl right
    | infinity other => exact nofun
    | zero other =>
      cases rightUnsigned
      exact nofun
    | finite => exact nofun
  | finite sign mantissa exponent positive =>
    cases v with
    | notANumber => exact absurd rfl right
    | infinity other => exact nofun
    | zero other => exact nofun
    | finite other mantissa' exponent' positive' => exact normalize_ne _ _ _

/-! ### Doubles -/

theorem isNumber_sub {x y : Float} (number : Scalar.isNumber x) (finite : y.isFinite) :
    Scalar.isNumber (x - y) :=
  isNumber_iff.mpr (unpack_pack_ne (sub_ne (isNumber_iff.mp number) finite))

theorem isNumber_mul_self {x : Float} (number : Scalar.isNumber x) : Scalar.isNumber (x * x) :=
  isNumber_iff.mpr (unpack_pack_ne (mul_self_ne (isNumber_iff.mp number)))

theorem isNumber_add {x y : Float} (left : Scalar.isNumber x) (leftUnsigned : Unsigned x)
    (right : Scalar.isNumber y) (rightUnsigned : Unsigned y) : Scalar.isNumber (x + y) :=
  isNumber_iff.mpr (unpack_pack_ne
    (add_ne (isNumber_iff.mp left) leftUnsigned (isNumber_iff.mp right) rightUnsigned))

theorem isNumber_squaredDistanceTo {p q : Point Float} (x : Scalar.isNumber q.x)
    (y : Scalar.isNumber q.y) (finite : p.IsFinite) : Scalar.isNumber (q.squaredDistanceTo p) :=
  isNumber_add (isNumber_mul_self (isNumber_sub x finite.x)) (unsigned_mul_self _)
    (isNumber_mul_self (isNumber_sub y finite.y)) (unsigned_mul_self _)

end Double

end RoadSketch
