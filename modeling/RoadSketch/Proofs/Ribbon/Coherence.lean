import RoadSketch.Double
import RoadSketch.Proofs.Segments

/-!
# Coherent ribbons

Whatever an editor does to a ribbon, its bearings and lengths keep fitting its shape, and unless it
is scaled they are those of the shape. Then drawing from them is drawing the shape.

Every change but scaling replaces the ribbon by a fresh one, so it has nothing to keep. Scaling
starts over from a remembered state. Its invariant is that this state has as many points and
lengths as the ribbon has.
-/
namespace RoadSketch

variable {α : Type} [Scalar α]

namespace Ribbon

/-- One bearing and one length for every two neighbouring points. -/
structure IsPath (ribbon : Ribbon α) : Prop where
  bearings : ribbon.bearings.length = ribbon.shape.points.length - 1
  lengths : ribbon.lengths.length = ribbon.shape.points.length - 1

/-- A single point with a bearing. -/
structure IsPoint (ribbon : Ribbon α) : Prop where
  point : ribbon.shape.points.length = 1
  bearing : ribbon.bearings.length = 1
  lengths : ribbon.lengths = []

/-- The bearings and lengths are those of the segments of the shape, one by one. -/
def Measured (ribbon : Ribbon α) : Prop :=
  ∀ (i : Nat) (p q : Point α),
    ribbon.shape.points[i]? = some p → ribbon.shape.points[i + 1]? = some q →
      ribbon.bearings[i]? = some (p.bearingTo q) ∧
      ∃ length, p.distanceTo q = .ok length ∧ ribbon.lengths[i]? = some length

/-- Drawing boxes from the bearings and lengths at hand is drawing them along the shape. -/
def DrawsShape (ribbon : Ribbon α) : Prop :=
  ∀ width, Drawing.boxesAlong ribbon.shape width =
    .ok (Drawing.boxes ribbon.shape ribbon.bearings ribbon.lengths width)

def Edit.isScale : Edit α → Bool
  | .scale _ => true
  | _ => false

/-- Has a ribbon been scaled since the last other change? -/
def endsScaled (changes : List (Edit α)) : Bool := changes.getLast?.any Edit.isScale

/-! ### Fresh ribbons -/

theorem ofShape_eq_ok {shape : Polyline α} {ribbon : Ribbon α} :
    ofShape shape = .ok ribbon ↔
      ∃ lengths, shape.lengths = .ok lengths ∧ ⟨shape, shape.bearings, lengths, none⟩ = ribbon := by
  simp only [ofShape, Checked.bind_eq_ok, Checked.pure_eq_ok]

/-- A ribbon that no scaling has touched since it was made. -/
inductive Fresh : Ribbon α → Prop
  | path {shape lengths} (measured : shape.lengths = .ok lengths) :
      Fresh ⟨shape, shape.bearings, lengths, none⟩
  | point (p : Point α) (bearing : α) : Fresh (ofPoint p bearing)

theorem fresh_ofShape {shape : Polyline α} {ribbon : Ribbon α}
    (made : ofShape shape = .ok ribbon) : Fresh ribbon := by
  obtain ⟨lengths, measured, rfl⟩ := ofShape_eq_ok.mp made
  exact .path measured

theorem fresh_empty : Fresh (empty : Ribbon α) := Fresh.path rfl

theorem fresh_ofPosition {shape : Polyline α} {position : Distance α} {lateral : α}
    {ribbon : Ribbon α} (made : ofPosition shape position lateral = .ok ribbon) :
    Fresh ribbon := by
  simp only [ofPosition, Checked.bind_eq_ok] at made
  obtain ⟨total, _, point?, _, made⟩ := made
  cases point? with
  | none =>
    cases made
    exact fresh_empty
  | some p =>
    simp only [Checked.bind_eq_ok, Checked.pure_eq_ok] at made
    obtain ⟨direction?, _, rfl⟩ := made
    exact .point p _

theorem fresh_ofWindow {shape : Polyline α} {start finish : Distance α} {lateral : α}
    {ribbon : Ribbon α} (made : ofWindow shape start finish lateral = .ok ribbon) :
    Fresh ribbon := by
  simp only [ofWindow, Checked.bind_eq_ok] at made
  obtain ⟨shifted, _, total, _, window, _, piece, _, made⟩ := made
  exact fresh_ofShape made

theorem fresh_ofTrims {shape : Polyline α} {start finish : Option (Distance α)}
    {first last : Option (Point α)} {ribbon : Ribbon α}
    (made : ofTrims shape start finish first last = .ok ribbon) : Fresh ribbon := by
  unfold ofTrims at made
  split at made
  · exact fresh_ofShape made
  · simp only [Checked.bind_eq_ok] at made
    obtain ⟨total, _, window, _, piece, _, made⟩ := made
    exact fresh_ofShape made

/-- Every change but scaling makes a fresh ribbon. -/
theorem fresh_edit {ribbon changed : Ribbon α} {change : Edit α} (other : ¬change.isScale)
    (made : ribbon.edit change = .ok changed) : Fresh changed := by
  cases change with
  | redraw shape => exact fresh_ofShape made
  | collapse shape position lateral => exact fresh_ofPosition made
  | cut shape start finish lateral => exact fresh_ofWindow made
  | trim shape start finish first last => exact fresh_ofTrims made
  | place point bearing =>
    cases made
    exact .point point bearing
  | scale factor => exact absurd rfl other
  | clear =>
    cases made
    exact fresh_empty

/-! ### The invariant of a run -/

/-- What every change keeps: the ribbon has one of the two forms, and scaling starts over from a
state with as many points and lengths. -/
structure Coherent (ribbon : Ribbon α) : Prop where
  form : ribbon.IsPath ∨ ribbon.IsPoint
  points : ribbon.baseline.shape.points.length = ribbon.shape.points.length
  lengths : ribbon.baseline.lengths.length = ribbon.lengths.length

theorem Fresh.coherent {ribbon : Ribbon α} (fresh : ribbon.Fresh) : ribbon.Coherent := by
  cases fresh with
  | path measured =>
    exact ⟨.inl ⟨Polyline.length_bearings _, Polyline.length_of_lengths measured⟩, rfl, rfl⟩
  | point p bearing => exact ⟨.inr ⟨rfl, rfl, rfl⟩, rfl, rfl⟩

theorem scale_keeps_counts {ribbon scaled : Ribbon α} {factor : α}
    (grown : ribbon.scale factor = .ok scaled) :
    scaled.bearings = ribbon.bearings ∧
      scaled.shape.points.length = ribbon.baseline.shape.points.length ∧
      scaled.lengths.length = ribbon.baseline.lengths.length ∧
      scaled.baseline.shape = ribbon.baseline.shape ∧
      scaled.baseline.lengths = ribbon.baseline.lengths := by
  simp only [scale, Checked.bind_eq_ok, Checked.pure_eq_ok] at grown
  obtain ⟨shape, moved, lengths, stretched, rfl⟩ := grown
  exact ⟨rfl, Polyline.length_of_scale moved, Checked.length_of_mapM stretched, rfl, rfl⟩

theorem Coherent.scale {ribbon scaled : Ribbon α} {factor : α} (coherent : ribbon.Coherent)
    (grown : ribbon.scale factor = .ok scaled) : scaled.Coherent := by
  obtain ⟨bearings, points, lengths, base, baseLengths⟩ := scale_keeps_counts grown
  -- Shape and lengths are remade from the baseline and the bearings are kept, so the counts agree
  -- only because the baseline has the counts of the ribbon.
  have samePoints : scaled.shape.points.length = ribbon.shape.points.length :=
    points.trans coherent.points
  have sameLengths : scaled.lengths.length = ribbon.lengths.length :=
    lengths.trans coherent.lengths
  refine ⟨?_, ?_, ?_⟩
  · rcases coherent.form with path | point
    · left
      exact ⟨by rw [bearings, samePoints, path.bearings], by rw [sameLengths, samePoints, path.lengths]⟩
    · right
      refine ⟨samePoints.trans point.point, by rw [bearings, point.bearing], ?_⟩
      rw [← List.length_eq_zero_iff, sameLengths, point.lengths, List.length_nil]
  · rw [base, points]
  · rw [baseLengths, lengths]

theorem Coherent.edit {ribbon changed : Ribbon α} {change : Edit α} (coherent : ribbon.Coherent)
    (made : ribbon.edit change = .ok changed) : changed.Coherent := by
  by_cases scales : change.isScale
  · cases change with
    | scale factor => exact coherent.scale made
    | _ => simp [Edit.isScale] at scales
  · exact (fresh_edit scales made).coherent

theorem Coherent.edits {start ribbon : Ribbon α} {changes : List (Edit α)}
    (coherent : start.Coherent) (run : start.edits changes = .ok ribbon) : ribbon.Coherent :=
  Checked.foldlM_induction (fun _ reached => reached.Coherent) coherent
    (fun _ _ _ _ _ reached made => reached.edit made) run

/-- A run that does not end in scaling ends in a fresh ribbon. -/
theorem Fresh.edits {start ribbon : Ribbon α} {changes : List (Edit α)} (fresh : start.Fresh)
    (settled : ¬endsScaled changes) (run : start.edits changes = .ok ribbon) : ribbon.Fresh := by
  -- Whatever came before the last change is replaced by it.
  rcases List.eq_nil_or_concat changes with rfl | ⟨earlier, last, rfl⟩
  · cases run
    exact fresh
  · simp only [Ribbon.edits, List.concat_eq_append, List.foldlM_append, List.foldlM_cons,
      List.foldlM_nil, Checked.bind_eq_ok, Checked.pure_eq_ok] at run
    obtain ⟨reached, _, changed, made, rfl⟩ := run
    have other : ¬last.isScale := by simpa [endsScaled] using settled
    exact fresh_edit other made

/-! ### What ribbons draw -/

theorem Fresh.measured {ribbon : Ribbon α} (fresh : ribbon.Fresh) (path : ribbon.IsPath) :
    ribbon.Measured := by
  intro i p q here next
  cases fresh with
  | path measured =>
    have segment := Polyline.segments_getElem? _ i p q here next
    refine ⟨?_, Polyline.lengths_getElem? measured segment⟩
    simp only [Polyline.bearings, List.getElem?_map, segment]
    rfl
  | point p bearing => exact absurd path.bearings (by simp [ofPoint])

theorem IsPoint.drawsShape {ribbon : Ribbon α} (point : ribbon.IsPoint) : ribbon.DrawsShape := by
  intro width
  obtain ⟨⟨points⟩, bearings, lengths, unscaled⟩ := ribbon
  obtain ⟨single, _, none⟩ := point
  obtain ⟨p, rfl⟩ := List.length_eq_one_iff.mp single
  subst none
  simp [Drawing.boxesAlong, Drawing.boxes, Polyline.lengths, Polyline.segments, Polyline.bearings]

theorem Fresh.drawsShape {ribbon : Ribbon α} (fresh : ribbon.Fresh) : ribbon.DrawsShape := by
  cases fresh with
  | path measured =>
    intro width
    simp [Drawing.boxesAlong, measured]
  | point p bearing => exact IsPoint.drawsShape ⟨rfl, rfl, rfl⟩

/-- Every run of changes, from nothing or from a shape, ends in a path or in a single point. A
point always draws its shape, and so does a path that was not scaled last: its bearings and
lengths are those of its segments. -/
theorem edits_coherent {start ribbon : Ribbon α} {changes : List (Edit α)}
    (opened : start = empty ∨ ∃ shape, ofShape shape = .ok start)
    (run : start.edits changes = .ok ribbon) :
    (ribbon.IsPath ∨ ribbon.IsPoint) ∧
    (ribbon.IsPoint → ribbon.DrawsShape) ∧
    (¬endsScaled changes → (ribbon.IsPath → ribbon.Measured) ∧ ribbon.DrawsShape) := by
  have fresh : start.Fresh := by
    rcases opened with rfl | ⟨shape, made⟩
    · exact fresh_empty
    · exact fresh_ofShape made
  refine ⟨(fresh.coherent.edits run).form, IsPoint.drawsShape, fun settled => ?_⟩
  have reached := fresh.edits settled run
  exact ⟨reached.measured, reached.drawsShape⟩

/-- A run that draws, scales, collapses and cuts, over doubles. -/
theorem edits_coherent_of_mixed_run : ∃ ribbon, (empty : Ribbon Float).edits
      [.redraw ⟨[⟨0, 0⟩, ⟨3, 4⟩, ⟨3, 0⟩]⟩, .scale 2, .place ⟨1, 1⟩ 45, .scale 3,
        .cut ⟨[⟨0, 0⟩, ⟨10, 0⟩]⟩ ⟨2⟩ ⟨6⟩ 0] = .ok ribbon ∧
    (ribbon.IsPath ∨ ribbon.IsPoint) ∧ (ribbon.IsPath → ribbon.Measured) ∧ ribbon.DrawsShape := by
  refine (Checked.exists_of_isOk ?_).imp fun ribbon run => ⟨run, ?_⟩
  · decide +kernel
  · have coherent := edits_coherent (.inl rfl) run
    exact ⟨coherent.1, coherent.2.2 (by decide)⟩

end Ribbon

end RoadSketch
