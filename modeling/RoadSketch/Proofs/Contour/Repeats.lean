import RoadSketch.Proofs.Contour.Closing
import RoadSketch.Proofs.Contour.SingleDash
import RoadSketch.Proofs.Dash.Alternation

/-!
# Outlines of paths with repeated points

Repeating a point of a path adds a run without dashes to both sides of its outline. The sides are
drawn as before, and they are joined as before unless the new run is an outermost one: a run without
dashes has no ends to join.

## Main result

`path_insertRepeat`: the outline of a path with a repeated point against that of the path.
-/
namespace RoadSketch

open Checked

theorem insertIdx_succ_length {β : Type} (before : List β) (p q : β) (after : List β) :
    (before ++ p :: after).insertIdx (before.length + 1) q = before ++ p :: q :: after := by
  induction before with
  | nil => rfl
  | cons first rest ih =>
    rw [List.cons_append, List.length_cons, List.insertIdx_succ_cons, ih]
    rfl

variable {α : Type} [Scalar α]

namespace Contour

theorem length_sides (kind : OutlineKind) (settings : Settings α)
    (top bottom connectors : DashedLine α) (width : Option α) :
    (sides kind settings top bottom connectors width).length =
      2 * ((top.boxes width).length + (bottom.boxes width).length +
        (connectors.boxes width).length) + 3 := by
  simp only [sides, DashedLine.draw, Drawing.onLayer, Drawing.isolated, List.length_append,
    List.length_cons, List.length_nil, length_alternating]
  omega

section
variable [LawfulLengths α]

/-- Repeating a point adds a run without dashes to both sides. -/
theorem path_repeat {p : Point α} (finite : p.IsFinite) (before after : List (Point α))
    (kind : OutlineKind) (settings : Settings α) (width exaggeration : α)
    (joinStarts joinEnds : Bool) (lineWidth : Option α) :
    path kind settings ⟨before ++ p :: p :: after⟩ width exaggeration joinStarts joinEnds
        lineWidth =
      path kind settings ⟨before ++ p :: after⟩ width exaggeration
        (joinStarts && decide (0 < before.length)) (joinEnds && decide (0 < after.length))
        lineWidth := by
  refine (Agree.eq ?_).symm
  refine (DashedLine.ofShape_gapped settings finite before after).bind fun line longer center => ?_
  refine (center.shift _).bind fun top longerTop above => ?_
  refine (center.shift _).bind fun bottom longerBottom below => ?_
  rw [above.invert.connectors below]
  refine (Agree.refl _).bind ?_
  rintro connectors _ rfl
  refine .ok ?_
  simp only [sides, above.invert.draw, below.draw]

/-- Repeating a point of a path changes nothing about its outline, unless that is the first or the
last one: then the outline is as if the sides were not to be joined there. -/
theorem path_insertRepeat (shape : Polyline α) {i : Nat} (within : i < shape.points.length)
    (finite : shape.points[i].IsFinite) (kind : OutlineKind) (settings : Settings α)
    (width exaggeration : α) (joinStarts joinEnds : Bool) (lineWidth : Option α) :
    path kind settings ⟨shape.points.insertIdx (i + 1) shape.points[i]⟩ width exaggeration
        joinStarts joinEnds lineWidth =
      path kind settings shape width exaggeration (joinStarts && decide (0 < i))
        (joinEnds && decide (i + 1 < shape.points.length)) lineWidth := by
  obtain ⟨points⟩ := shape
  obtain ⟨before, p, after, rfl, rfl⟩ : ∃ before p after,
      points = before ++ p :: after ∧ before.length = i :=
    ⟨points.take i, points[i], points.drop (i + 1), by simp, by simpa using within.le⟩
  have here : (before ++ p :: after)[before.length] = p := by simp
  have others : before.length + 1 < (before ++ p :: after).length ↔ 0 < after.length := by
    simp only [List.length_append, List.length_cons]
    omega
  simp only [here] at finite
  simp only [here, insertIdx_succ_length, path_repeat finite, others]

theorem path_insertRepeat_of_doubles :
    1 < (Polyline.mk [⟨0, 0⟩, ⟨1, 0⟩, ⟨2, 0⟩] : Polyline Float).points.length ∧
    (⟨1, 0⟩ : Point Float).IsFinite ∧
    path .inspect .standard (⟨[⟨0, 0⟩, ⟨1, 0⟩, ⟨1, 0⟩, ⟨2, 0⟩]⟩ : Polyline Float) 1 1 true true
        none =
      path .inspect .standard ⟨[⟨0, 0⟩, ⟨1, 0⟩, ⟨2, 0⟩]⟩ 1 1 true true none := by
  have finite : (⟨1, 0⟩ : Point Float).IsFinite := ⟨by decide +kernel, by decide +kernel⟩
  have within : 1 < (Polyline.mk [⟨0, 0⟩, ⟨1, 0⟩, ⟨2, 0⟩] : Polyline Float).points.length := by
    decide
  exact ⟨within, finite, path_insertRepeat _ within finite .inspect .standard 1 1 true true none⟩

end

/-! ### Repeating the first point -/

/-- Where the connector between the starts has dashes, joining them is to be seen. -/
theorem path_joinStarts_ne {kind : OutlineKind} {settings : Settings Exact}
    {shape : Polyline Exact} {width exaggeration : Exact} {center top bottom : DashedLine Exact}
    (along : DashedLine.ofShape settings shape false = .ok center)
    (above : center.shift (width * exaggeration) = .ok top)
    (below : center.shift (-width * exaggeration) = .ok bottom) {p q : Point Exact}
    (topStarts : top.invert.start? = some p) (bottomStarts : bottom.start? = some q)
    {run : DashRun Exact}
    (joined : DashRun.between p q ⟨Scalar.trim settings.dashes.length⟩ (-1) = .ok run)
    (dashes : ∀ w, run.boxes w ≠ []) (joinEnds : Bool) (lineWidth : Option Exact) :
    path kind settings shape width exaggeration true joinEnds lineWidth ≠
      path kind settings shape width exaggeration false joinEnds lineWidth := by
  intro same
  obtain ⟨ends, ended⟩ := DashedLine.exists_wanted joinEnds top.invert.finish? bottom.finish?
    ⟨Scalar.trim settings.dashes.length⟩ 1
  have shown : DashedLine.wanted true top.invert.start? bottom.start?
      ⟨Scalar.trim settings.dashes.length⟩ (-1) = .ok [run] := by
    simp [DashedLine.wanted, DashedLine.connector?, topStarts, bottomStarts, joined]
  have left : DashedLine.wanted false top.invert.start? bottom.start?
      ⟨Scalar.trim settings.dashes.length⟩ (-1) = .ok [] := rfl
  simp only [path, along, above, below, DashedLine.connectors_eq, Distance.ofMeters_eq_ok, shown,
    left, ended, ok_bind, pure_bind] at same
  -- The two outlines have as many boxes apart from those of the connector.
  have counts := congrArg List.length (Except.ok.inj same)
  simp only [length_sides, DashedLine.boxes, DashedLine.drawnWidth, List.flatMap_append,
    List.flatMap_cons, List.flatMap_nil, List.length_append, List.length_nil] at counts
  refine dashes ((lineWidth.filter fun w => decide (w > 0)).getD settings.dashes.width) ?_
  exact List.eq_nil_of_length_eq_zero (by omega)

/-- A road of a meter that starts twice on the same spot is not joined at its start, and that of the
same road without the repetition is. -/
theorem path_repeat_first_ne :
    path .inspect .standard (⟨[⟨0, 0⟩, ⟨0, 0⟩, ⟨1, 0⟩]⟩ : Polyline Exact) 1 1 true true none ≠
      path .inspect .standard ⟨[⟨0, 0⟩, ⟨1, 0⟩]⟩ 1 1 true true none := by
  have repeated := path_repeat (Point.isFinite ⟨0, 0⟩) [] [(⟨1, 0⟩ : Point Exact)] .inspect
    .standard 1 1 true true none
  -- The repetition changes whether the starts are joined, so it is enough to compare these two.
  change _ = path .inspect .standard ⟨[⟨0, 0⟩, ⟨1, 0⟩]⟩ 1 1 false true none at repeated
  rw [List.nil_append] at repeated
  rw [repeated]
  -- The road is one dash, and so are its two sides.
  obtain ⟨run, drawn, along⟩ := DashedLine.exists_ofShape_side
  have grid := Line.onGrid_side Exact.onGrid_zero
  obtain ⟨top, above, drawnAbove⟩ := DashRun.exists_shift_of_pair drawn grid (Line.side_ne 0)
    (by simp) Line.shift_side_right
  obtain ⟨bottom, below, drawnBelow⟩ := DashRun.exists_shift_of_pair drawn grid (Line.side_ne 0)
    (by simp) Line.shift_side_left
  -- The sides start two meters apart, which is one dash too.
  have across : (Line.mk ⟨0, 1⟩ ⟨0, -1⟩ : Line Exact).OnGrid :=
    ⟨⟨Exact.onGrid_zero, Exact.onGrid_ofNat 1⟩, ⟨Exact.onGrid_zero, ⟨-10000, by simp⟩⟩⟩
  have differ : (⟨0, 1⟩ : Point Exact) ≠ ⟨0, -1⟩ := by
    simp only [ne_eq, Point.mk.injEq, true_and, Exact.ext_iff, Exact.value_neg, Exact.value_literal]
    norm_num
  have reaches : (Line.mk ⟨0, 1⟩ ⟨0, -1⟩ : Line Exact).exactLength.value ≤
      (⟨Scalar.trim (Settings.standard : Settings Exact).dashes.length⟩ :
        Distance Exact).meters.value := by
    rw [DashedLine.standard_step]
    simp only [Line.exactLength, Point.exactDistanceTo, Point.squaredDistanceTo, Scalar.square,
      Exact.value_sqrt, Exact.value_add, Exact.value_mul, Exact.value_sub, Exact.value_neg,
      Exact.value_literal]
    exact Real.sqrt_le_iff.mpr ⟨by norm_num, by norm_num⟩
  obtain ⟨connector, joined, drawnAcross⟩ := DashRun.exists_between_short across differ reaches (-1)
  have dashes (w : Exact) : connector.boxes w ≠ [] := by
    rw [← List.length_pos_iff, (DashRun.between_measured joined).length_boxes, drawnAcross]
    exact Nat.one_pos
  refine (path_joinStarts_ne along (DashedLine.shift_single above _)
    (DashedLine.shift_single below _) ?_ ?_ joined dashes true none).symm
  · simp [DashedLine.start?, DashedLine.invert, DashRun.invert, drawnAbove, Polyline.first?,
      Line.side]
  · simp [DashedLine.start?, drawnBelow, Polyline.first?, Line.side]

end Contour

end RoadSketch
