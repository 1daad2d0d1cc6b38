import RoadSketch.Proofs.Dash.Connectors
import RoadSketch.Proofs.Lengths

/-!
# Runs without dashes

A point that is repeated on a path adds a segment of no length to it, and so a run without dashes to
the dashed line along it. Such a run stays without dashes when the line is moved or inverted, and is
not to be seen. It matters in one way only: two lines are joined between their outermost runs, and a
run without dashes has no ends.
-/
namespace RoadSketch

open Checked

variable {α : Type} [Scalar α]

namespace DashRun

def blank (offset : Int) : DashRun α := ⟨.empty, [], [], offset⟩

theorem boxes_blank (offset : Int) (width : α) : (blank offset : DashRun α).boxes width = [] := by
  simp [DashRun.boxes, Drawing.boxes, blank, Polyline.empty]

theorem shift_blank (offset : Int) (width : α) :
    (blank offset : DashRun α).shift width = .ok (blank offset) := rfl

/-- Along a segment of no length there are no dashes. -/
theorem between_self [LawfulLengths α] {p : Point α} (finite : p.IsFinite) (step : Distance α)
    (offset : Int) : between p p step offset = .ok (blank offset) := by
  rw [between, Polyline.resample_self finite]
  rfl

end DashRun

namespace DashedLine

/-- A dashed line, and the same line with one more run that has no dashes, after some runs and
before others. -/
inductive Gapped (earlier later : Nat) : DashedLine α → DashedLine α → Prop where
  | gap {before after : List (DashRun α)} (offset : Int) (width : α)
      (early : before.length = earlier) (late : after.length = later) :
      Gapped earlier later ⟨before ++ after, width⟩ ⟨before ++ .blank offset :: after, width⟩

variable {earlier later : Nat} {line longer : DashedLine α}

omit [Scalar α] in
theorem Gapped.invert (gapped : Gapped earlier later line longer) :
    Gapped earlier later line.invert longer.invert := by
  cases gapped with
  | gap offset width early late =>
    simp only [DashedLine.invert, List.map_append, List.map_cons]
    exact .gap (-offset) width (by simpa using early) (by simpa using late)

theorem Gapped.shift (gapped : Gapped earlier later line longer) (width : α) :
    Agree (Gapped earlier later) (line.shift width) (longer.shift width) := by
  cases gapped with
  | @gap before after offset drawn early late =>
    have inserted := Agree.mapM_insert (DashRun.shift · width) (DashRun.shift_blank offset width)
    refine (inserted before after).bind ?_
    rintro _ _ ⟨front, back, counted, others, rfl, rfl⟩
    exact .ok (.gap offset drawn (counted.trans early) (others.trans late))

/-- The run without dashes is not to be seen. -/
theorem Gapped.draw (gapped : Gapped earlier later line longer) (settings : Settings α)
    (kind : OutlineKind) (width : Option α) (state : Alternation) :
    longer.draw settings kind width state = line.draw settings kind width state := by
  cases gapped with
  | gap offset drawn early late =>
    simp [DashedLine.draw, DashedLine.boxes, drawnWidth, DashRun.boxes_blank]

/-! ### Where sides are joined -/

omit [Scalar α] in
theorem Gapped.start? (gapped : Gapped earlier later line longer) :
    longer.start? = if 0 < earlier then line.start? else none := by
  cases gapped with
  | @gap before after offset width early late =>
    cases before with
    | nil =>
      subst early
      rfl
    | cons first rest =>
      have several : 0 < earlier := by
        rw [← early]
        exact Nat.succ_pos _
      rw [if_pos several]
      rfl

omit [Scalar α] in
theorem Gapped.finish? (gapped : Gapped earlier later line longer) :
    longer.finish? = if 0 < later then line.finish? else none := by
  cases gapped with
  | @gap before after offset width early late =>
    rcases List.eq_nil_or_concat after with rfl | ⟨rest, last, rfl⟩
    · subst late
      simp [DashedLine.finish?, DashRun.blank, Polyline.empty, Polyline.last?]
    · have several : 0 < later := by
        rw [← late]
        simp
      rw [if_pos several]
      simp [DashedLine.finish?, List.getLast?_cons]

theorem wanted_of_gap (join : Bool) (count : Nat) (start finish : Option (Point α))
    (step : Distance α) (offset : Int) :
    wanted join (if 0 < count then start else none) (if 0 < count then finish else none) step
      offset = wanted (join && decide (0 < count)) start finish step offset := by
  by_cases several : 0 < count
  · simp [several]
  · simp [several, wanted_none]
    rfl

/-- Where the run without dashes is an outermost one, the sides are not joined. -/
theorem Gapped.connectors {top longerTop bottom longerBottom : DashedLine α}
    (above : Gapped earlier later top longerTop) (below : Gapped earlier later bottom longerBottom)
    (settings : Settings α) (joinStarts joinEnds : Bool) :
    connectors settings longerTop joinStarts longerBottom joinEnds =
      connectors settings top (joinStarts && decide (0 < earlier)) bottom
        (joinEnds && decide (0 < later)) := by
  simp only [connectors_eq, above.start?, above.finish?, below.start?, below.finish?, wanted_of_gap]

/-- Where a point is repeated there is one more run, without dashes. -/
theorem ofShape_gapped [LawfulLengths α] (settings : Settings α) {p : Point α}
    (finite : p.IsFinite) (before after : List (Point α)) :
    Agree (Gapped before.length after.length) (ofShape settings ⟨before ++ p :: after⟩ false)
      (ofShape settings ⟨before ++ p :: p :: after⟩ false) := by
  have sameLength : Polyline.length ⟨before ++ p :: p :: after⟩ =
      Polyline.length ⟨before ++ p :: after⟩ :=
    congrArg Distance.ofMeters (Polyline.exactLength_repeat finite before after)
  simp only [ofShape, closeIf, Bool.false_and, Bool.false_eq_true, if_false, sameLength]
  refine (Agree.refl _).bind ?_
  rintro length _ rfl
  refine (Agree.refl _).bind ?_
  rintro step _ rfl
  -- The segments are those up to the point, the one of no length and those from the point on.
  have runs := Agree.mapM_insert (x := Line.mk p p)
    (fun line => DashRun.between line.start line.finish step (-1))
    (DashRun.between_self finite step (-1)) (Polyline.segments ⟨before ++ [p]⟩)
    (Polyline.segments ⟨p :: after⟩)
  rw [← Polyline.segments_cons_cons, ← Polyline.segments_append, ← Polyline.segments_append] at runs
  refine runs.bind ?_
  rintro _ _ ⟨front, back, counted, others, rfl, rfl⟩
  refine .ok (.gap (-1) _ (counted.trans ?_) (others.trans ?_))
  · simp
  · simp

end DashedLine

end RoadSketch
