import Mathlib
import RoadSketch.Proofs.DoubleTrimming
import RoadSketch.Proofs.Exact

/-!
# Comparisons

All comparisons of exact numbers agree with each other. Doubles have a zero of either sign and
something that is not a number, and still those that are numbers stand in one row: by their sign,
then by their exponent, and then by their mantissa.
-/
namespace RoadSketch

/-- Numbers whose comparisons agree with each other. What is not a number is compared to nothing. -/
class LawfulOrder (α : Type) [Scalar α] : Prop where
  isNumber_of_le : ∀ x y : α, x ≤ y → Scalar.isNumber x ∧ Scalar.isNumber y
  not_lt_iff : ∀ x y : α, Scalar.isNumber x → Scalar.isNumber y → (¬x < y ↔ y ≤ x)
  lt_of_le_of_lt : ∀ x y z : α, x ≤ y → y < z → x < z
  isNumber_zero : Scalar.isNumber (0 : α)
  isNumber_trim : ∀ x : α, Scalar.isFinite x → Scalar.isNumber (Scalar.trim x)

theorem Exact.isNumber (x : Exact) : Scalar.isNumber x := beq_self_eq_true x

instance : LawfulOrder Exact where
  isNumber_of_le x y _ := ⟨x.isNumber, y.isNumber⟩
  not_lt_iff _ _ _ _ := not_lt (α := ℝ)
  lt_of_le_of_lt _ _ _ := lt_of_le_of_lt (α := ℝ)
  isNumber_zero := Exact.isNumber 0
  isNumber_trim _ _ := Exact.isNumber _

namespace LawfulOrder

variable {α : Type} [Scalar α] [LawfulOrder α]

theorem le_trans {x y z : α} (first : x ≤ y) (second : y ≤ z) : x ≤ z := by
  obtain ⟨xNumber, yNumber⟩ := isNumber_of_le x y first
  obtain ⟨_, zNumber⟩ := isNumber_of_le y z second
  rw [← not_lt_iff z x zNumber xNumber]
  intro below
  have turned := lt_of_le_of_lt y z x second below
  exact (not_lt_iff y x yNumber xNumber).mpr first turned

instance : IsTrans α (· ≤ ·) := ⟨fun _ _ _ => le_trans⟩

/-- A distance that was made from a number is a number. -/
theorem isNumber_of_ofMeters {x : α} {distance : Distance α}
    (made : Distance.ofMeters x = .ok distance) : Scalar.isNumber distance.meters := by
  unfold Distance.ofMeters at made
  split at made
  next finite =>
    cases made
    exact isNumber_trim x finite
  next => cases made

end LawfulOrder

/-! ### The row of doubles -/

namespace Double

open Float.Model (UnpackedFloat)

/-- Where a double stands among all that are numbers. -/
def rank? : UnpackedFloat → Option (ℤ ×ₗ ℤ ×ₗ ℤ)
  | .notANumber => none
  | .infinity .negative => some (toLex (-2, toLex (0, 0)))
  | .finite .negative mantissa exponent _ => some (toLex (-1, toLex (-exponent, -mantissa)))
  | .zero _ => some (toLex (0, toLex (0, 0)))
  | .finite .positive mantissa exponent _ => some (toLex (1, toLex (exponent, mantissa)))
  | .infinity .positive => some (toLex (2, toLex (0, 0)))

theorem compare_neg_neg (a b : ℤ) : compare (-a) (-b) = (compare a b).swap := by
  have falling : StrictAnti fun a : ℤ => -a := fun _ _ => Int.neg_lt_neg
  rw [← cmp_eq_compare, ← cmp_eq_compare, cmp_swap]
  exact falling.cmp_map_eq a b

theorem compare_natCast (m n : ℕ) : compare (m : ℤ) n = compare m n := by
  rw [← cmp_eq_compare, ← cmp_eq_compare]
  exact Nat.strictMono_cast.cmp_map_eq m n

theorem compare_toLex (a b c d e f : ℤ) :
    compare (toLex (a, toLex (b, c))) (toLex (d, toLex (e, f))) =
      (compare a d).then ((compare b e).then (compare c f)) := rfl

/-- Doubles compare like their ranks. -/
theorem compare_eq_rank (u v : UnpackedFloat) :
    UnpackedFloat.compare u v = (rank? u).bind fun r => (rank? v).map (compare r) := by
  cases u with
  | notANumber => rfl
  | infinity sign => cases sign <;> rcases v with ⟨⟨⟩⟩ | _ | _ | ⟨⟨⟩, _, _, _⟩ <;> rfl
  | zero sign => rcases v with ⟨⟨⟩⟩ | _ | _ | ⟨⟨⟩, _, _, _⟩ <;> rfl
  | finite sign mantissa exponent positive =>
    cases v with
    | notANumber => cases sign <;> rfl
    | infinity other => cases sign <;> cases other <;> rfl
    | zero other => cases sign <;> rfl
    | finite other mantissa' exponent' positive' =>
      -- Below zero, greater exponents and mantissas come first.
      cases sign <;> cases other
      · change some _ = some _
        rw [compare_toLex, compare_neg_neg exponent, compare_neg_neg (mantissa : ℤ),
          compare_natCast, Ordering.swap_then]
        rfl
      · rfl
      · rfl
      · change some _ = some _
        rw [compare_toLex, compare_natCast]
        rfl

theorem lt_iff_rank {x y : Float} :
    x < y ↔ ∃ r ∈ rank? x.toModel.unpack, ∃ s ∈ rank? y.toModel.unpack, r < s := by
  change x.lt y = true ↔ _
  rw [Float.lt, decide_eq_true_iff]
  change UnpackedFloat.lt _ _ = true ↔ _
  rw [UnpackedFloat.lt, compare_eq_rank]
  cases rank? x.toModel.unpack <;> cases rank? y.toModel.unpack <;> simp [compare_lt_iff_lt]

theorem le_iff_rank {x y : Float} :
    x ≤ y ↔ ∃ r ∈ rank? x.toModel.unpack, ∃ s ∈ rank? y.toModel.unpack, r ≤ s := by
  change x.le y = true ↔ _
  rw [Float.le, decide_eq_true_iff]
  change UnpackedFloat.le _ _ = true ↔ _
  rw [UnpackedFloat.le, compare_eq_rank]
  cases rank? x.toModel.unpack <;> cases rank? y.toModel.unpack <;>
    simp [Ordering.isLE_iff_ne_gt, compare_le_iff_le]

theorem isNumber_iff_rank {x : Float} :
    Scalar.isNumber x ↔ ∃ r, rank? x.toModel.unpack = some r := by
  change UnpackedFloat.beq _ _ = true ↔ _
  rw [UnpackedFloat.beq, compare_eq_rank]
  cases rank? x.toModel.unpack <;> simp

theorem isNumber_iff {x : Float} : Scalar.isNumber x ↔ x.toModel.unpack ≠ .notANumber := by
  rw [isNumber_iff_rank]
  cases x.toModel.unpack with
  | notANumber => exact iff_of_false nofun (absurd rfl)
  | infinity sign => cases sign <;> exact iff_of_true ⟨_, rfl⟩ nofun
  | zero sign => exact iff_of_true ⟨_, rfl⟩ nofun
  | finite sign mantissa exponent positive =>
    cases sign <;> exact iff_of_true ⟨_, rfl⟩ nofun

theorem isNumber_of_not_isNaN {x : Float} (number : x.isNaN = false) : Scalar.isNumber x := by
  change UnpackedFloat.isNaN x.toModel.unpack = false at number
  rw [isNumber_iff]
  intro none
  rw [none] at number
  cases number

end Double

instance : LawfulOrder Float where
  isNumber_of_le x y ordered := by
    obtain ⟨r, left, s, right, _⟩ := Double.le_iff_rank.mp ordered
    exact ⟨Double.isNumber_iff_rank.mpr ⟨r, left⟩, Double.isNumber_iff_rank.mpr ⟨s, right⟩⟩
  not_lt_iff x y left right := by
    obtain ⟨r, left⟩ := Double.isNumber_iff_rank.mp left
    obtain ⟨s, right⟩ := Double.isNumber_iff_rank.mp right
    rw [Double.lt_iff_rank, Double.le_iff_rank, left, right]
    simp
  lt_of_le_of_lt x y z ordered below := by
    obtain ⟨r, left, s, middle, lower⟩ := Double.le_iff_rank.mp ordered
    obtain ⟨s', middle', t, right, upper⟩ := Double.lt_iff_rank.mp below
    cases middle.symm.trans middle'
    exact Double.lt_iff_rank.mpr ⟨r, left, t, right, lower.trans_lt upper⟩
  isNumber_zero := by decide +kernel
  isNumber_trim _ finite :=
    Double.isNumber_of_not_isNaN (Double.isTrimmed_trimFloat finite).isNumber

end RoadSketch
