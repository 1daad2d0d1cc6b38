import RoadSketch.Proofs.DoubleSums
import RoadSketch.Proofs.Plane

/-!
# Points that coincide

Whether two points coincide does not depend on which of them comes first, over exact numbers and
over doubles: the differences of two doubles either way round are rounded alike, so that they are
the same up to their sign.
-/
namespace RoadSketch

/-- Numbers that are as far from each other either way round. -/
class LawfulGaps (α : Type) [Scalar α] : Prop where
  abs_sub_comm : ∀ x y : α, Scalar.abs (x - y) = Scalar.abs (y - x)

instance : LawfulGaps Exact where
  abs_sub_comm x y := Exact.ext (abs_sub_comm x.value y.value)

/-! ### Differences of doubles -/

namespace Double

open Float.Model (Format UnpackedFloat)
open Float.Model.UnpackedFloat

variable {spec : Format}

theorem abs_unpack_packComponents (sign : Sign) (exponent : BitVec spec.exponentBits)
    (mantissa : BitVec spec.mantissaBitsWithoutImplicit) :
    (unpack spec (packComponents spec sign exponent mantissa)).abs =
      unpack spec (packComponents spec .positive exponent mantissa) := by
  simp only [unpack, unpackExponent_packComponents, unpackMantissa_packComponents,
    unpackSign_packComponents]
  split
  · split <;> rfl
  · split
    · split <;> rfl
    · rfl

/-- The sign is stored on its own. -/
theorem abs_unpack_pack (u : UnpackedFloat) :
    (unpack spec (pack spec u)).abs = unpack spec (pack spec u.abs) := by
  cases u with
  | notANumber => exact abs_unpack_packComponents _ _ _
  | infinity sign => exact abs_unpack_packComponents _ _ _
  | zero sign => exact abs_unpack_packComponents _ _ _
  | finite sign mantissa exponent positive =>
    change _ = unpack spec (pack spec (.finite .positive mantissa exponent positive))
    simp only [pack]
    by_cases large : 2 ^ spec.exponentBits ≤
        (exponent + spec.exponentBias + spec.mantissaBitsWithoutImplicit).toNat + 1
    · simp only [if_pos large]
      exact abs_unpack_packComponents _ _ _
    · by_cases normal : mantissa.log2 + 1 = spec.mantissaBits
      · simp only [if_neg large, if_pos normal]
        exact abs_unpack_packComponents _ _ _
      · simp only [if_neg large, if_neg normal]
        exact abs_unpack_packComponents _ _ _

/-- Rounding to nearest does not depend on the sign. -/
theorem abs_round (sign : Sign) (mantissa : Nat) (exponent : Int) :
    (UnpackedFloat.round spec sign mantissa exponent).abs =
      (UnpackedFloat.round spec .positive mantissa exponent).abs := by
  simp only [UnpackedFloat.round, roundWithAccuracy]
  split <;> rfl

theorem abs_normalize_neg (mantissa exponent : Int) :
    (UnpackedFloat.normalize spec (-mantissa) exponent .positive).abs =
      (UnpackedFloat.normalize spec mantissa exponent .positive).abs := by
  rcases lt_trichotomy mantissa 0 with below | rfl | above
  · have turned : compare (-mantissa) 0 = .gt := compare_gt_iff_gt.mpr (by omega)
    rw [UnpackedFloat.normalize, UnpackedFloat.normalize, turned, compare_lt_iff_lt.mpr below]
    exact (abs_round .negative _ _).symm
  · rfl
  · have turned : compare (-mantissa) 0 = .lt := compare_lt_iff_lt.mpr (by omega)
    rw [UnpackedFloat.normalize, UnpackedFloat.normalize, turned, compare_gt_iff_gt.mpr above]
    simp only [neg_neg]
    exact abs_round .negative _ _

theorem abs_sub_comm_unpacked (u v : UnpackedFloat) :
    (UnpackedFloat.sub spec u v).abs = (UnpackedFloat.sub spec v u).abs := by
  cases u with
  | notANumber => cases v <;> rfl
  | infinity sign =>
    cases v with
    | infinity other => cases sign <;> cases other <;> rfl
    | notANumber => rfl
    | zero other => rfl
    | finite => rfl
  | zero sign =>
    cases v with
    | zero other => cases sign <;> cases other <;> rfl
    | notANumber => rfl
    | infinity other => rfl
    | finite => rfl
  | finite sign mantissa exponent positive =>
    cases v with
    | finite other mantissa' exponent' positive' =>
      simp only [UnpackedFloat.sub, min_comm exponent' exponent]
      rw [← abs_normalize_neg, neg_sub]
    | notANumber => rfl
    | infinity other => rfl
    | zero other => rfl

/-- What is stored of a difference is the same up to its sign either way round. -/
theorem abs_sub_comm (x y : Float) : (x - y).abs = (y - x).abs := by
  have stored (u : UnpackedFloat) : UnpackedFloat.abs (Float.Model.pack u).unpack =
      unpack .binary64 (pack .binary64 u.abs) := abs_unpack_pack u
  have sub (x y : Float) : (x - y).abs = Float.ofModel (.pack (UnpackedFloat.abs
    (Float.Model.pack (UnpackedFloat.sub .binary64 x.toModel.unpack y.toModel.unpack)).unpack)) :=
    rfl
  rw [sub, sub, stored, stored, abs_sub_comm_unpacked]

end Double

instance : LawfulGaps Float where
  abs_sub_comm := Double.abs_sub_comm

namespace Point

variable {α : Type} [Scalar α] [LawfulGaps α]

theorem coincides_comm (p q : Point α) : p.coincides q = q.coincides p := by
  rw [coincides, coincides, isNear, isNear, LawfulGaps.abs_sub_comm p.x,
    LawfulGaps.abs_sub_comm p.y]

end Point

end RoadSketch
