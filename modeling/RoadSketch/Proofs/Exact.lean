import Mathlib.Algebra.Order.Round
import Mathlib.Analysis.SpecialFunctions.Complex.Arg
import Mathlib.Analysis.SpecialFunctions.Sqrt
import Mathlib.Tactic.Linarith
import RoadSketch.Distance

/-!
# Exact numbers

The real numbers as scalars. No operation rounds, apart from the one that brings coordinates and
distances to their stored precision, so what is proved of a definition here is about the definition
and not about the precision of doubles.
-/
namespace RoadSketch

@[ext] structure Exact where
  value : ℝ

namespace Exact

/-- The nearest integer, and of two that are equally near the one further from zero. -/
noncomputable def roundAway (x : ℝ) : ℤ := if 0 ≤ x then round x else -round (-x)

noncomputable instance : Scalar Exact where
  add x y := ⟨x.value + y.value⟩
  sub x y := ⟨x.value - y.value⟩
  mul x y := ⟨x.value * y.value⟩
  div x y := ⟨x.value / y.value⟩
  neg x := ⟨-x.value⟩
  lt x y := x.value < y.value
  le x y := x.value ≤ y.value
  beq x y := decide (x.value = y.value)
  decLt _ _ := Real.decidableLT _ _
  decLe _ _ := Real.decidableLE _ _
  ofNat n := ⟨n⟩
  pi := ⟨Real.pi⟩
  abs x := ⟨|x.value|⟩
  sqrt x := ⟨Real.sqrt x.value⟩
  sin x := ⟨Real.sin x.value⟩
  cos x := ⟨Real.cos x.value⟩
  atan2 y x := ⟨Complex.arg ⟨x.value, y.value⟩⟩
  modulo x m := ⟨x.value - |m.value| * ⌊x.value / |m.value|⌋⟩
  isFinite _ := true
  trim x := ⟨roundAway (x.value * 10000) / 10000⟩
  floorInt x := ⌊x.value⌋
  ceilNat x := ⌈x.value⌉₊

/-! ### Operations and comparisons on values -/

@[simp] theorem value_add (x y : Exact) : (x + y).value = x.value + y.value := rfl

@[simp] theorem value_sub (x y : Exact) : (x - y).value = x.value - y.value := rfl

@[simp] theorem value_mul (x y : Exact) : (x * y).value = x.value * y.value := rfl

@[simp] theorem value_div (x y : Exact) : (x / y).value = x.value / y.value := rfl

@[simp] theorem value_neg (x : Exact) : (-x).value = -x.value := rfl

@[simp] theorem value_abs (x : Exact) : (Scalar.abs x).value = |x.value| := rfl

@[simp] theorem value_sqrt (x : Exact) : (Scalar.sqrt x).value = Real.sqrt x.value := rfl

@[simp] theorem value_literal (n : Nat) : (ofNat(n) : Exact).value = n := rfl

@[simp] theorem lt_iff {x y : Exact} : x < y ↔ x.value < y.value := Iff.rfl

@[simp] theorem le_iff {x y : Exact} : x ≤ y ↔ x.value ≤ y.value := Iff.rfl

instance : LawfulBEq Exact where
  rfl := decide_eq_true rfl
  eq_of_beq same := Exact.ext (of_decide_eq_true same)

theorem add_zero (x : Exact) : x + 0 = x := by
  ext
  simp

theorem one_mul (x : Exact) : 1 * x = x := by
  ext
  simp

theorem mul_zero (x : Exact) : x * 0 = 0 := by
  ext
  simp

theorem mul_one (x : Exact) : x * 1 = x := by
  ext
  simp

/-! ### The stored precision -/

theorem roundAway_intCast (k : ℤ) : roundAway k = k := by
  have negated : round (-(k : ℝ)) = -k := by exact_mod_cast round_intCast (α := ℝ) (-k)
  simp [roundAway, negated]

theorem abs_roundAway_sub_le (x : ℝ) : |(roundAway x : ℝ) - x| ≤ 1 / 2 := by
  unfold roundAway
  split
  · rw [abs_sub_comm]
    exact abs_sub_round x
  · push_cast
    have near := abs_sub_round (-x)
    rwa [show -(round (-x) : ℝ) - x = -x - round (-x) by ring]

theorem abs_trim_sub_le (x : Exact) : |(Scalar.trim x).value - x.value| ≤ 1 / 20000 := by
  change |(roundAway (x.value * 10000) : ℝ) / 10000 - x.value| ≤ 1 / 20000
  have near := abs_roundAway_sub_le (x.value * 10000)
  rw [abs_le] at near ⊢
  constructor <;> linarith [near.1, near.2]

/-- A multiple of a ten-thousandth. -/
def OnGrid (x : Exact) : Prop := ∃ k : ℤ, x.value = k / 10000

/-- The multiples of a ten-thousandth are what bringing to the stored precision leaves alone. -/
theorem trim_eq_iff {x : Exact} : Scalar.trim x = x ↔ x.OnGrid := by
  constructor
  · intro kept
    exact ⟨roundAway (x.value * 10000), congrArg value kept.symm⟩
  · rintro ⟨k, value⟩
    have scaled : x.value * 10000 = k := by rw [value]; ring
    ext
    change (roundAway (x.value * 10000) : ℝ) / 10000 = x.value
    rw [scaled, roundAway_intCast, value]

theorem onGrid_trim (x : Exact) : (Scalar.trim x).OnGrid := ⟨roundAway (x.value * 10000), rfl⟩

theorem OnGrid.add {x y : Exact} (left : x.OnGrid) (right : y.OnGrid) : (x + y).OnGrid := by
  obtain ⟨k, kth⟩ := left
  obtain ⟨l, lth⟩ := right
  refine ⟨k + l, ?_⟩
  rw [value_add, kth, lth]
  push_cast
  ring

theorem OnGrid.sub {x y : Exact} (left : x.OnGrid) (right : y.OnGrid) : (x - y).OnGrid := by
  obtain ⟨k, kth⟩ := left
  obtain ⟨l, lth⟩ := right
  refine ⟨k - l, ?_⟩
  rw [value_sub, kth, lth]
  push_cast
  ring

/-- Between two neighboring multiples of a ten-thousandth there is no other. -/
theorem OnGrid.le_of_lt_add {x y : Exact} (left : x.OnGrid) (right : y.OnGrid)
    (close : x.value < y.value + 1 / 10000) : x.value ≤ y.value := by
  obtain ⟨k, kth⟩ := left
  obtain ⟨l, lth⟩ := right
  have below : (k : ℝ) < l + 1 := by linarith
  have ordered : k ≤ l := by exact_mod_cast Int.lt_add_one_iff.mp (by exact_mod_cast below)
  have cast : (k : ℝ) ≤ l := by exact_mod_cast ordered
  rw [kth, lth]
  linarith

theorem onGrid_ofNat (n : ℕ) : (Scalar.ofNat n : Exact).OnGrid := by
  refine ⟨n * 10000, ?_⟩
  change (n : ℝ) = _
  push_cast
  ring

theorem onGrid_zero : (0 : Exact).OnGrid := onGrid_ofNat 0

theorem OnGrid.nonneg_of_lt {x : Exact} (grid : x.OnGrid) (close : -(1 / 10000) < x.value) :
    0 ≤ x.value := by
  have ordered := onGrid_zero.le_of_lt_add grid (by simpa using neg_lt_iff_pos_add.mp close)
  simpa using ordered

theorem trim_nonneg {x : Exact} (nonneg : 0 ≤ x.value) : 0 ≤ (Scalar.trim x).value := by
  have close := (abs_le.mp (abs_trim_sub_le x)).1
  exact (onGrid_trim x).nonneg_of_lt (by linarith)

theorem OnGrid.le_abs {x : Exact} (grid : x.OnGrid) (nonzero : x.value ≠ 0) :
    1 / 10000 ≤ |x.value| := by
  by_contra! small
  obtain ⟨above, below⟩ := abs_lt.mp small
  have upper := grid.le_of_lt_add onGrid_zero (by simpa using below)
  have zero : (0 : Exact).value = 0 := by simp
  exact nonzero (le_antisymm (upper.trans_eq zero) (grid.nonneg_of_lt above))

/-- Moving a stored number by no more than another one moves what is stored by no more. -/
theorem OnGrid.abs_trim_add_sub_le {x y bound : Exact} (grid : x.OnGrid) (stored : bound.OnGrid)
    (within : |y.value| ≤ bound.value) :
    |(Scalar.trim (x + y)).value - x.value| ≤ bound.value := by
  obtain ⟨above, below⟩ := abs_le.mp (abs_trim_sub_le (x + y))
  obtain ⟨least, most⟩ := abs_le.mp within
  rw [value_add] at above below
  have upper := (onGrid_trim (x + y)).le_of_lt_add (grid.add stored) (by rw [value_add]; linarith)
  have lower := (grid.sub stored).le_of_lt_add (onGrid_trim (x + y)) (by rw [value_sub]; linarith)
  rw [value_add] at upper
  rw [value_sub] at lower
  exact abs_le.mpr ⟨by linarith, by linarith⟩

/-- A number less than half a step from a stored one is brought to it. -/
theorem OnGrid.trim_eq_of_near {x y : Exact} (grid : y.OnGrid)
    (near : |x.value - y.value| < 1 / 20000) : Scalar.trim x = y := by
  have rounded := abs_trim_sub_le x
  have triangle := abs_sub_le (Scalar.trim x).value x.value y.value
  by_contra differ
  have apart : (Scalar.trim x - y).value ≠ 0 := fun same => differ (Exact.ext (sub_eq_zero.mp same))
  have step := ((onGrid_trim x).sub grid).le_abs apart
  rw [value_sub] at step
  linarith

/-- Bringing a positive number to the stored precision takes off less than half a step, as what is
half way is brought up. -/
theorem lt_trim_add {x : Exact} (nonneg : 0 ≤ x.value) :
    x.value < (Scalar.trim x).value + 1 / 20000 := by
  have scaled : 0 ≤ x.value * 10000 := by linarith
  have rounded : (Scalar.trim x).value = (⌊x.value * 10000 + 1 / 2⌋ : ℤ) / 10000 := by
    change (roundAway (x.value * 10000) : ℝ) / 10000 = _
    rw [roundAway, if_pos scaled, round_eq]
  have above := Int.lt_floor_add_one (x.value * 10000 + 1 / 2)
  rw [rounded]
  linarith

/-! ### Clamping -/

theorem value_greater (x y : Exact) : (Scalar.greater x y).value = max x.value y.value := by
  have number : Scalar.isNumber x = true := beq_self_eq_true x
  rw [Scalar.greater, if_pos number]
  split
  next below => exact (max_eq_right (le_of_lt (lt_iff.mp below))).symm
  next reaches => exact (max_eq_left (not_lt.mp reaches)).symm

theorem value_lesser (x y : Exact) : (Scalar.lesser x y).value = min x.value y.value := by
  have number : Scalar.isNumber x = true := beq_self_eq_true x
  rw [Scalar.lesser, if_pos number]
  split
  next above => exact (min_eq_right (le_of_lt (lt_iff.mp above))).symm
  next within => exact (min_eq_left (not_lt.mp within)).symm

theorem clamp_unit (x : Exact) :
    0 ≤ (Scalar.clamp x 0 1).value ∧ (Scalar.clamp x 0 1).value ≤ 1 := by
  unfold Scalar.clamp
  split
  · simp
  · next reaches =>
    split
    · simp
    · next within =>
      simp only [lt_iff, not_lt] at reaches within
      exact ⟨by simpa using reaches, by simpa using within⟩

theorem clamp_of_unit {x : Exact} (positive : 0 ≤ x.value) (within : x.value ≤ 1) :
    Scalar.clamp x 0 1 = x := by
  have reaches : ¬x < 0 := by simpa using positive
  have below : ¬1 < x := by simpa using within
  rw [Scalar.clamp, if_neg reaches, if_neg below]

end Exact

namespace Distance

@[simp] theorem lt_iff {a b : Distance Exact} : a < b ↔ a.meters.value < b.meters.value := Iff.rfl

@[simp] theorem le_iff {a b : Distance Exact} : a ≤ b ↔ a.meters.value ≤ b.meters.value := Iff.rfl

theorem not_lt_iff {a b : Distance Exact} : ¬a < b ↔ b ≤ a := not_lt (α := ℝ)

theorem not_le_iff {a b : Distance Exact} : ¬a ≤ b ↔ b < a := not_le (α := ℝ)

instance : LawfulBEq (Distance Exact) where
  rfl {a} := beq_self_eq_true a.meters
  eq_of_beq {a b} same := by
    cases a
    cases b
    exact congrArg Distance.mk (eq_of_beq same)

@[simp] theorem value_zero : (zero : Distance Exact).meters.value = 0 := Nat.cast_zero

@[simp] theorem value_positionStep : (positionStep : Distance Exact).meters.value = 1 / 10 := by
  simp [positionStep]

/-- A distance in the stored precision. -/
def OnGrid (a : Distance Exact) : Prop := a.meters.OnGrid

/-- A distance given in ten-thousandths of a meter. -/
noncomputable def stored (k : ℤ) : Distance Exact := ⟨⟨k / 10000⟩⟩

theorem onGrid_stored (k : ℤ) : (stored k).OnGrid := ⟨k, rfl⟩

theorem onGrid_positionStep : (positionStep : Distance Exact).OnGrid :=
  ⟨1000, by simp [positionStep]; norm_num⟩

theorem ofMeters_eq_ok (x : Exact) : ofMeters x = .ok ⟨Scalar.trim x⟩ := if_pos rfl

theorem add_eq_ok (a b : Distance Exact) :
    a.add b = .ok ⟨Scalar.trim (a.meters + b.meters)⟩ := ofMeters_eq_ok _

theorem scale_eq_ok (a : Distance Exact) (factor : Exact) :
    a.scale factor = .ok ⟨Scalar.trim (a.meters * factor)⟩ := ofMeters_eq_ok _

theorem ofMeters_of_onGrid {x : Exact} (grid : x.OnGrid) : ofMeters x = .ok ⟨x⟩ := by
  rw [ofMeters_eq_ok, Exact.trim_eq_iff.mpr grid]

/-- Adding and subtracting stored distances is exact. -/
theorem OnGrid.add_eq_ok {a b : Distance Exact} (left : a.OnGrid) (right : b.OnGrid) :
    a.add b = .ok ⟨a.meters + b.meters⟩ := ofMeters_of_onGrid (Exact.OnGrid.add left right)

theorem OnGrid.sub_eq_ok {a b : Distance Exact} (left : a.OnGrid) (right : b.OnGrid) :
    a.sub b = .ok ⟨a.meters - b.meters⟩ := ofMeters_of_onGrid (Exact.OnGrid.sub left right)

end Distance

end RoadSketch
