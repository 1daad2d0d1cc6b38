import RoadSketch.Proofs.Polyline.Circles

/-!
# Angles of any size

Every angle has a point on the unit circle, also an infinite one and what is not a number. Up to
whole turns it is at the nearest tenth of a degree, so whole turns never lead to another point. That
ends where an angle has more tenths than an integer of 64 bits can count: from there on all angles
share one point. On doubles the angle itself is rounded on the way, which takes the point a tiny part
of the angle away.

## Main results

- `isNearStep_nearestStep_double`: how near the step of a finite double is.
- `nearestStep_turns`: every angle has a point, and keeps it over whole turns.
-/
namespace RoadSketch

/-! ### Whole turns -/

theorem nearestStep_add_turns (degrees : Exact) (turns : ℤ) :
    nearestStep (⟨degrees.value + 360 * turns⟩ : Exact) = nearestStep degrees := by
  have tenths : (degrees.value + 360 * turns) * 10 + 1 / 2 =
      degrees.value * 10 + 1 / 2 + ((turnSteps * turns : ℤ) : ℝ) := by
    push_cast [turnSteps]
    ring
  rw [nearestStep_eq_floor, nearestStep_eq_floor, tenths, Int.floor_add_intCast,
    Int.add_mul_emod_self_left]

/-! ### Integers of 64 bits -/

theorem nearestStep_saturated (angle : ℝ) :
    nearestStep (Saturated.ofReal angle) =
      (saturate ⌊angle * 10 + 1 / 2⌋ % turnSteps).toNat := by
  have tenths : (Saturated.ofReal angle * 10 + 1 / 2 : Saturated) =
      Saturated.ofReal (angle * 10 + 1 / 2) := by
    change Saturated.ofReal (angle * (10 : ℕ) + (1 : ℕ) / (2 : ℕ)) = _
    norm_num
  rw [nearestStep, tenths]
  rfl

/-- Up to some size, the steps of angles are not limited by the size of integers. -/
theorem nearestStep_saturated_eq {angle : ℝ} (small : |10 * angle| < 2 ^ 62) :
    nearestStep (Saturated.ofReal angle) = nearestStep (⟨angle⟩ : Exact) := by
  obtain ⟨above, below⟩ := abs_lt.mp small
  have fits : |angle * 10 + 1 / 2| < 2 ^ 63 := abs_lt.mpr ⟨by linarith, by linarith⟩
  rw [nearestStep_saturated, saturate_floor fits, nearestStep_eq_floor]

/-- Angles that are too large for integers all share one step. -/
theorem nearestStep_saturated_of_le {angle : ℝ} (large : 2 ^ 63 ≤ 10 * angle) :
    nearestStep (Saturated.ofReal angle) = 1807 := by
  have beyond : greatestLongWord ≤ ⌊angle * 10 + 1 / 2⌋ := by
    rw [Int.le_floor, greatestLongWord]
    push_cast
    linarith
  rw [nearestStep_saturated, saturate, min_eq_left beyond]
  rfl

/-! ### Doubles -/

theorem IsNearStep.mono {bound bound' tenths : ℝ} {step : Nat} (near : IsNearStep bound tenths step)
    (wider : bound ≤ bound') : IsNearStep bound' tenths step := by
  obtain ⟨turns, close⟩ := near
  exact ⟨turns, close.trans wider⟩

/-- No two angles are further apart than half a turn. -/
theorem isNearStep_half_turn (tenths : ℝ) (step : Nat) : IsNearStep (turnSteps / 2) tenths step := by
  have near := abs_sub_round ((tenths - step) / turnSteps)
  refine ⟨round ((tenths - step) / turnSteps), ?_⟩
  generalize round ((tenths - step) / turnSteps) = turns at near ⊢
  rw [turnSteps, abs_le] at near ⊢
  constructor <;> push_cast at near ⊢ <;> linarith

/-- The step of a finite double is the nearest one, up to a tiny part of the angle. -/
theorem isNearStep_nearestStep_double {x : Float} {v : ℚ} (value : Double.IsValue x v) :
    IsNearStep (1 / 2 + (|(v * 10 : ℝ)| + 1) / 2 ^ 50) (v * 10) (nearestStep x) := by
  by_cases small : |v * 10| < 2 ^ 61
  · obtain ⟨k, found, near⟩ := Double.exists_nearestStep value small
    have real : ((|v * 10 - k| : ℚ) : ℝ) ≤ ((1 / 2 + (|v * 10| + 1) / 2 ^ 50 : ℚ) : ℝ) :=
      Rat.cast_le.mpr near
    push_cast at real
    rw [found]
    exact isNearStep_of_near real
  · -- A tiny part of an angle as large as that is more than a turn.
    have large : (2 ^ 61 : ℝ) ≤ |(v * 10 : ℝ)| := by exact_mod_cast not_lt.mp small
    refine (isNearStep_half_turn _ _).mono ?_
    rw [turnSteps]
    push_cast
    linarith

/-! ### Every angle -/

theorem exists_unitPoint {α : Type} [Scalar α] (degrees : α) :
    ∃ p : α × α, unitPoint (nearestStep degrees) = .ok p :=
  ⟨_, if_pos (nearestStep_lt degrees).le⟩

-- What is not a number is looked up like zero, and infinity like the greatest integer.
example : nearestStep (0 / 0 : Float) = 0 ∧ nearestStep (1 / 0 : Float) = 1807 := by decide +kernel

/-- Every double has a step within the turn, and a point there. Over exact numbers, up to some size,
whole turns do not change the step of an angle, and no other step is nearer. -/
theorem nearestStep_turns :
    (∀ degrees : Float, nearestStep degrees < turnSteps ∧
      ∃ p : Float × Float, unitPoint (nearestStep degrees) = .ok p) ∧
    ∀ (angle : ℝ) (turns : ℤ), |10 * angle| < 2 ^ 62 → |10 * (angle + 360 * turns)| < 2 ^ 62 →
      nearestStep (Saturated.ofReal (angle + 360 * turns)) =
        nearestStep (Saturated.ofReal angle) ∧
      IsNearStep (1 / 2) (10 * angle) (nearestStep (Saturated.ofReal angle)) := by
  refine ⟨fun degrees => ⟨nearestStep_lt degrees, exists_unitPoint degrees⟩, ?_⟩
  intro angle turns small small'
  rw [nearestStep_saturated_eq small, nearestStep_saturated_eq small',
    mul_comm 10 angle]
  exact ⟨nearestStep_add_turns ⟨angle⟩ turns, isNearStep_nearestStep ⟨angle⟩⟩

/-- An angle below zero, half way between two tenths of a degree, and almost as far up as there are
integers. -/
theorem nearestStep_turns_of_tie :
    |10 * (-29 / 4 : ℝ)| < 2 ^ 62 ∧ |10 * (-29 / 4 + 360 * (10 ^ 15 : ℤ) : ℝ)| < 2 ^ 62 ∧
      nearestStep (Saturated.ofReal (-29 / 4 + 360 * (10 ^ 15 : ℤ))) = 3528 ∧
      nearestStep (Saturated.ofReal (-29 / 4)) = 3528 ∧
      IsNearStep (1 / 2) (10 * (-29 / 4)) 3528 := by
  have small : |10 * (-29 / 4 : ℝ)| < 2 ^ 62 := by rw [abs_lt]; norm_num
  have small' : |10 * (-29 / 4 + 360 * (10 ^ 15 : ℤ) : ℝ)| < 2 ^ 62 := by rw [abs_lt]; norm_num
  obtain ⟨same, near⟩ := nearestStep_turns.2 (-29 / 4) (10 ^ 15) small small'
  have step : nearestStep (Saturated.ofReal (-29 / 4)) = 3528 := by
    have floor : ⌊(-29 / 4 : ℝ) * 10 + 1 / 2⌋ = -72 := by rw [Int.floor_eq_iff]; norm_num
    rw [nearestStep_saturated, floor]
    rfl
  rw [step] at same near
  exact ⟨small, small', same, step, near⟩

end RoadSketch
