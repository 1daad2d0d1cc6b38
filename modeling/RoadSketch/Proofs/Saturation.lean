import RoadSketch.Double
import RoadSketch.Proofs.Exact

/-!
# Integers of 64 bits

Integers that are taken out of numbers have 64 bits. One that does not fit is moved to the nearest
one that does. On doubles it is found from the exact value, so moving it is all that can go wrong.

Exact numbers have integers of any size. For what depends on their size there are exact numbers
here whose integers have 64 bits too.

## Main results

- `saturate_floor`: no integer below a number of less than `2 ^ 63` is moved.
- `Double.floorInt_eq`: the integer below a finite double.
-/
namespace RoadSketch

/-- The integer of 64 bits that is nearest to an integer. -/
def saturate (k : ℤ) : ℤ := max leastLongWord (min greatestLongWord k)

theorem saturate_eq_self {k : ℤ} (low : leastLongWord ≤ k) (high : k ≤ greatestLongWord) :
    saturate k = k := by
  rw [saturate, min_eq_right high, max_eq_right low]

theorem saturate_floor {K : Type} [Field K] [LinearOrder K] [IsStrictOrderedRing K] [FloorRing K]
    {v : K} (small : |v| < 2 ^ 63) : saturate ⌊v⌋ = ⌊v⌋ := by
  obtain ⟨above, below⟩ := abs_lt.mp small
  have low : -2 ^ 63 ≤ ⌊v⌋ := Int.le_floor.mpr (by exact_mod_cast above.le)
  have high : ⌊v⌋ < 2 ^ 63 := Int.floor_lt.mpr (by exact_mod_cast below)
  refine saturate_eq_self ?_ ?_ <;> simp only [leastLongWord, greatestLongWord] <;> omega

/-! ### Exact numbers -/

/-- The exact numbers, with integers of 64 bits. -/
def Saturated : Type := Exact

namespace Saturated

noncomputable instance : Scalar Saturated :=
  { (inferInstance : Scalar Exact) with
    floorInt x := saturate ⌊Exact.value x⌋
    ceilNat x := min ⌈Exact.value x⌉₊ (indexCount - 1) }

def ofReal (v : ℝ) : Saturated := Exact.mk v

end Saturated

/-! ### Doubles -/

/-- The number that a finite value stands for. -/
def BinaryValue.number? : BinaryValue → Option ℚ
  | .finite negative significand exponent =>
    some ((if negative then -(significand : ℚ) else significand) * 2 ^ exponent)
  | _ => none

theorem binaryFraction_spec (significand : Nat) (exponent : Int) :
    (significand : ℚ) * 2 ^ exponent =
      (binaryFraction significand exponent).1 / (binaryFraction significand exponent).2 := by
  unfold binaryFraction
  split
  next whole =>
    have power : (2 : ℚ) ^ exponent = 2 ^ exponent.toNat := by
      rw [← zpow_natCast, Int.toNat_of_nonneg whole]
    simp [power, binaryPower]
  next fraction =>
    have power : (2 : ℚ) ^ exponent = (2 ^ (-exponent).toNat)⁻¹ := by
      rw [← zpow_natCast, ← zpow_neg, Int.toNat_of_nonneg (by omega), neg_neg]
    simp [power, binaryPower, div_eq_mul_inv]

theorem BinaryValue.floorInto_eq {value : BinaryValue} {v : ℚ} (number : value.number? = some v)
    (low high : Int) : value.floorInto low high = max low (min high ⌊v⌋) := by
  cases value with
  | infinite negative => cases number
  | notANumber => cases number
  | finite negative significand exponent =>
    obtain rfl := Option.some.inj number
    have parts := binaryFraction_spec significand exponent
    rw [floorInto]
    generalize binaryFraction significand exponent = fraction at parts ⊢
    obtain ⟨num, den⟩ := fraction
    have floor (k : ℤ) : k.fdiv den = ⌊(k / den : ℚ)⌋ := by
      rw [Rat.floor_intCast_div_natCast, Int.fdiv_eq_ediv_of_nonneg _ (Int.natCast_nonneg den)]
    cases negative
    · simp [floor, parts]
    · simp [floor, parts, neg_div]

/-- The integer of 64 bits that is nearest to the one below the exact value. -/
theorem Double.floorInt_eq {x : Float} {v : ℚ} (number : (BinaryValue.ofDouble x).number? = some v) :
    Scalar.floorInt x = saturate ⌊v⌋ := BinaryValue.floorInto_eq number _ _

end RoadSketch
