import RoadSketch.Proofs.Dash.Measured
import RoadSketch.Proofs.Dash.Total
import RoadSketch.Proofs.Polyline.Resample

/-!
# The outline of a single dash

A segment that is at most one dash long is one dash, and moved sideways it is one dash again. For a
segment of one meter along the first axis, the two sides of the outline are written out.
-/
namespace RoadSketch

open Checked

namespace Polyline

/-- A segment that is at most one step long is one piece. -/
theorem resample_short {p q : Point Exact} (grid : (Line.mk p q).OnGrid) (differ : p ≠ q)
    {step : Distance Exact} (reaches : (Line.mk p q).exactLength.value ≤ step.meters.value) :
    resample ⟨[p, q]⟩ step true = .ok ⟨[p, q]⟩ := by
  have long := grid.le_exactLength differ
  have forward : 0 < step.meters.value := by linarith
  have ends : ∀ r ∈ [p, q], r.OnGrid := by
    simpa using And.intro grid.start grid.finish
  have single : ⌈(Line.mk p q).exactLength.value / step.meters.value⌉₊ = 1 := by
    rw [Nat.ceil_eq_iff one_ne_zero]
    constructor
    · simp only [Nat.sub_self, Nat.cast_zero]
      exact div_pos (by linarith) forward
    · rw [Nat.cast_one]
      exact div_le_one_of_le₀ reaches forward.le
  -- One piece has two ends, and these are all the samples.
  have both : samples p [q] 1 = [p, q] := by
    change [sample p [q] 1 0, sample p [q] 1 1] = [p, q]
    rw [sample_zero ends, sample_count ends one_pos]
    rfl
  rw [resample_pair grid differ forward, single, both]

theorem shift_pair {p q : Point Exact} (grid : (Line.mk p q).OnGrid) (differ : p ≠ q)
    {width : Exact} (nonzero : width.value ≠ 0) {line : Line Exact}
    (shifted : (Line.mk p q).shift width = .ok line) :
    shift ⟨[p, q]⟩ width = .ok ⟨[line.start, line.finish]⟩ := by
  have apart : ¬q.coincides p := mt (grid.finish.coincides_iff grid.start).mp differ.symm
  have kept : withoutRepeats ⟨[p, q]⟩ = ⟨[p, q]⟩ := by
    simp [withoutRepeats, dropRepeats, apart]
  have moved : (width == 0) = false := by
    rw [beq_eq_false_iff_ne]
    intro zero
    exact nonzero (by simp [zero])
  simp only [shift, kept, moved, segments_pair, List.mapM_cons, List.mapM_nil, shifted]
  rfl

end Polyline

namespace Angle

/-- Within one turn from zero, directions are normal already. -/
theorem normalRadians_of_lt {angle : Angle Exact} (nonneg : 0 ≤ angle.radians.value)
    (turn : angle.radians.value < 2 * Real.pi) : angle.normalRadians = angle.radians := by
  have whole : |2 * Real.pi| = 2 * Real.pi := abs_of_pos Real.two_pi_pos
  have none : ⌊angle.radians.value / (2 * Real.pi)⌋ = 0 := by
    rw [Int.floor_eq_zero_iff]
    exact ⟨div_nonneg nonneg Real.two_pi_pos.le, (div_lt_one Real.two_pi_pos).mpr turn⟩
  ext
  change angle.radians.value - |((2 : Nat) : ℝ) * Real.pi| *
    ⌊angle.radians.value / |((2 : Nat) : ℝ) * Real.pi|⌋ = _
  rw [Nat.cast_ofNat, whole, none]
  simp

end Angle

namespace Line

/-- A segment of one meter along the first axis, moved sideways. -/
noncomputable def side (offset : Exact) : Line Exact := ⟨⟨0, offset⟩, ⟨1, offset⟩⟩

theorem onGrid_side {offset : Exact} (grid : offset.OnGrid) : (side offset).OnGrid :=
  ⟨⟨Exact.onGrid_zero, grid⟩, ⟨Exact.onGrid_ofNat 1, grid⟩⟩

theorem value_length_side (offset : Exact) : (side offset).exactLength.value = 1 := by
  simp [side, exactLength, Point.exactDistanceTo, Point.squaredDistanceTo, Scalar.square]

theorem side_ne (offset : Exact) : (side offset).start ≠ (side offset).finish := by
  rw [Ne, ← exactLength_le_zero_iff, Exact.le_iff, value_length_side]
  simp

theorem angle_side (offset : Exact) : (side offset).angle.radians.value = 0 := by
  have flat : (⟨((1 : Exact) - 0).value, (offset - offset).value⟩ : ℂ) = 1 := by
    apply Complex.ext <;> simp
  exact (congrArg Complex.arg flat).trans Complex.arg_one

/-- A quarter turn from the first axis leads to the second. -/
theorem project_quarter {x sign : Exact} (start : x.OnGrid) (offset : sign.OnGrid)
    {angle : Angle Exact} (nonneg : 0 ≤ angle.radians.value)
    (turn : angle.radians.value < 2 * Real.pi) (cos : Real.cos angle.radians.value = 0)
    (sin : Real.sin angle.radians.value = sign.value) :
    (⟨x, 0⟩ : Point Exact).project ⟨1⟩ angle = .ok ⟨x, sign⟩ := by
  have forward : (0 : ℝ) ≤ (⟨1⟩ : Distance Exact).meters.value := by simp
  have across : x + 1 * Scalar.cos angle.radians = x := by
    ext
    change x.value + ((1 : Nat) : ℝ) * Real.cos angle.radians.value = x.value
    rw [cos]
    simp
  have aside : 0 + 1 * Scalar.sin angle.radians = sign := by
    ext
    change ((0 : Nat) : ℝ) + ((1 : Nat) : ℝ) * Real.sin angle.radians.value = sign.value
    rw [sin]
    simp
  rw [Point.project_eq_ok _ _ forward, Angle.normalRadians_of_lt nonneg turn]
  dsimp only
  rw [across, aside]
  have grid : (⟨x, sign⟩ : Point Exact).OnGrid := ⟨start, offset⟩
  exact congrArg Except.ok grid.nearest_eq

theorem value_right (offset : Exact) :
    ((side offset).angle.turned 90).radians.value = Real.pi / 2 := by
  change (side offset).angle.radians.value + ((90 : Nat) : ℝ) * (Real.pi / ((180 : Nat) : ℝ)) = _
  rw [angle_side]
  push_cast
  ring

/-- Moved by a meter, to whichever side, the segment keeps its extent along the first axis. -/
theorem shift_side {width sign : Exact} (unit : |width.value| = 1) (offset : sign.OnGrid)
    {angle : Angle Exact}
    (chosen : (if width ≥ 0 then (side 0).angle.turned 90
      else ((side 0).angle.turned 90).opposite) = angle)
    (nonneg : 0 ≤ angle.radians.value) (turn : angle.radians.value < 2 * Real.pi)
    (cos : Real.cos angle.radians.value = 0) (sin : Real.sin angle.radians.value = sign.value) :
    (side 0).shift width = .ok (side sign) := by
  have size : Scalar.abs width = 1 := by
    ext
    simpa using unit
  have one : Scalar.trim (1 : Exact) = 1 := Exact.trim_eq_iff.mpr (Exact.onGrid_ofNat 1)
  have start := project_quarter Exact.onGrid_zero offset nonneg turn cos sin
  have finish := project_quarter (Exact.onGrid_ofNat 1) offset nonneg turn cos sin
  simp only [shift, size, Distance.ofMeters_eq_ok, one, ok_bind, chosen]
  simp only [side] at start finish ⊢
  rw [start, ok_bind]
  exact congrArg (· >>= _) finish

theorem shift_side_right : (side 0).shift (1 * 1) = .ok (side 1) := by
  have positive : (1 * 1 : Exact) ≥ 0 := by simp
  have right := value_right 0
  have pi := Real.pi_pos
  refine shift_side (by simp) (Exact.onGrid_ofNat 1) (if_pos positive) ?_ ?_ ?_ ?_
  · linarith
  · linarith
  · rw [right, Real.cos_pi_div_two]
  · rw [right, Real.sin_pi_div_two]
    simp

theorem shift_side_left : (side 0).shift (-1 * 1) = .ok (side (-1)) := by
  have negative : ¬(-1 * 1 : Exact) ≥ 0 := by
    simp
  have left : ((side 0).angle.turned 90).opposite.radians.value = Real.pi / 2 + Real.pi :=
    congrArg (· + Real.pi) (value_right 0)
  have pi := Real.pi_pos
  refine shift_side ?_ ⟨-10000, ?_⟩ (if_neg negative) ?_ ?_ ?_ ?_
  · simp
  · simp
  · linarith
  · linarith
  · rw [left, Real.cos_add_pi, Real.cos_pi_div_two, neg_zero]
  · rw [left, Real.sin_add_pi, Real.sin_pi_div_two]
    simp

end Line

namespace DashRun

/-- A segment that is at most one dash long is one dash. -/
theorem exists_between_short {p q : Point Exact} (grid : (Line.mk p q).OnGrid) (differ : p ≠ q)
    {step : Distance Exact} (reaches : (Line.mk p q).exactLength.value ≤ step.meters.value)
    (offset : Int) : ∃ run, between p q step offset = .ok run ∧ run.shape = ⟨[p, q]⟩ :=
  exists_between_of_resample (Polyline.resample_short grid differ reaches) offset

theorem exists_shift_of_pair {run : DashRun Exact} {p q : Point Exact}
    (drawn : run.shape = ⟨[p, q]⟩) (grid : (Line.mk p q).OnGrid) (differ : p ≠ q)
    {width : Exact} (nonzero : width.value ≠ 0) {line : Line Exact}
    (shifted : (Line.mk p q).shift width = .ok line) :
    ∃ moved, run.shift width = .ok moved ∧ moved.shape = ⟨[line.start, line.finish]⟩ := by
  obtain ⟨moved, made, there⟩ := exists_ofShape ⟨[line.start, line.finish]⟩ run.offset
  refine ⟨moved, ?_, there⟩
  rw [shift, drawn, Polyline.shift_pair grid differ nonzero shifted, ok_bind, made]

theorem Measured.length_boxes {run : DashRun Exact} (measured : run.Measured) (width : Exact) :
    (run.boxes width).length = run.shape.points.length - 1 := by
  rw [← (measured.boxes_isBoxOf width).length_eq, Polyline.length_segments]

end DashRun

namespace DashedLine

theorem shift_single {run moved : DashRun Exact} {width : Exact}
    (shifted : run.shift width = .ok moved) (drawn : Exact) :
    shift ⟨[run], drawn⟩ width = .ok ⟨[moved], drawn⟩ := by
  simp only [shift, List.mapM_cons, List.mapM_nil, shifted]
  rfl

theorem standard_step : Scalar.trim (Settings.standard : Settings Exact).dashes.length = 2 :=
  Exact.trim_eq_iff.mpr (Exact.onGrid_ofNat 2)

/-- The dashed line along the segment is one dash. -/
theorem exists_ofShape_side : ∃ run, run.shape = ⟨[⟨0, 0⟩, ⟨1, 0⟩]⟩ ∧
    ofShape (.standard : Settings Exact) ⟨[⟨0, 0⟩, ⟨1, 0⟩]⟩ false =
      .ok ⟨[run], (.standard : Settings Exact).dashes.width⟩ := by
  have one : (Line.side 0).exactLength = 1 := by
    ext
    simpa using Line.value_length_side 0
  have near : Scalar.trim (1 : Exact) = 1 := Exact.trim_eq_iff.mpr (Exact.onGrid_ofNat 1)
  have far : Scalar.trim (500 : Exact) = 500 := Exact.trim_eq_iff.mpr (Exact.onGrid_ofNat 500)
  have length : (Polyline.mk [⟨0, 0⟩, ⟨1, 0⟩] : Polyline Exact).length = .ok ⟨1⟩ := by
    rw [Polyline.length_eq_ok, Polyline.exactLength_pair]
    change Except.ok (Distance.mk (Scalar.trim (Line.side 0).exactLength)) = _
    rw [one, near]
  have short : ¬(⟨1⟩ : Distance Exact) > ⟨500⟩ := by simp
  have step : dashLength (.standard : Settings Exact) ⟨1⟩ = .ok ⟨2⟩ := by
    simp only [dashLength, greatestLength, Distance.ofMeters_eq_ok, ok_bind, standard_step, far,
      if_neg short]
  have reaches : (Line.side 0).exactLength.value ≤ (⟨2⟩ : Distance Exact).meters.value := by
    simp [one]
  obtain ⟨run, made, drawn⟩ := DashRun.exists_between_short
    (Line.onGrid_side Exact.onGrid_zero) (Line.side_ne 0) reaches (-1)
  refine ⟨run, drawn, ?_⟩
  simp only [ofShape, closeIf, Bool.false_and, Bool.false_eq_true, if_false, length, step, ok_bind,
    ofSegments, Polyline.segments_pair, List.mapM_cons, List.mapM_nil, made]
  rfl

end DashedLine

end RoadSketch
