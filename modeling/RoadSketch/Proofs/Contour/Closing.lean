import RoadSketch.Contour
import RoadSketch.Proofs.Dash.Gaps
import RoadSketch.Proofs.Dash.Total
import RoadSketch.Proofs.Polyline.Rings

/-!
# Closed shapes with and without a repeated point

A ring may repeat its first point at the end or not. Either way its contour is the same drawing:
the area and the center do not depend on it, and scaling moves the repeated point to where the first
one goes. If rounding closes a ring that was open, the repeated point only adds a segment of no
length, which has no dashes.

## Main result

`closedShape_closeLoop`: a contour and that of the closed loop, over exact numbers.
-/
namespace RoadSketch

namespace Polyline

/-! ### Closing -/

theorem crossProduct_self (p : Point Exact) : crossProduct ⟨p, p⟩ = 0 := by
  ext
  simp [crossProduct]

theorem area_push_first {first : Point Exact} {rest : List (Point Exact)}
    (many : 2 ≤ rest.length) : (push ⟨first :: rest⟩ first).area = area ⟨first :: rest⟩ := by
  have manyPoints : ¬(first :: rest).length < 3 := by simpa using many
  have morePoints : ¬(push ⟨first :: rest⟩ first).points.length < 3 := by
    simp only [push, List.length_append]
    omega
  rw [area, area, if_neg manyPoints, if_neg morePoints, ringSegments_push_first,
    List.foldl_append, List.foldl_cons, List.foldl_nil, crossProduct_self, Exact.add_zero]

theorem centroid?_push_first {first : Point Exact} {rest : List (Point Exact)}
    (many : 2 ≤ rest.length) (isOpen : ¬isClosed ⟨first :: rest⟩) :
    (push ⟨first :: rest⟩ first).centroid? = centroid? ⟨first :: rest⟩ := by
  have sameArea : (push ⟨first :: rest⟩ first).area = area ⟨first :: rest⟩ := area_push_first many
  have closed := isClosed_push_first first rest
  simp only [Polyline.push, List.cons_append] at sameArea closed
  simp only [Polyline.push, List.cons_append, centroid?, sameArea, closed, isOpen, if_true,
    Bool.false_eq_true, if_false]

/-- An open ring and the closed one are moved in the same way. -/
theorem scale_push_first {first : Point Exact} {rest : List (Point Exact)}
    (many : 2 ≤ rest.length) (isOpen : ¬isClosed ⟨first :: rest⟩) (factor : Exact) :
    ∃ moved : Point Exact → Point Exact,
      scale ⟨first :: rest⟩ factor = .ok ⟨(first :: rest).map moved⟩ ∧
      (push ⟨first :: rest⟩ first).scale factor =
        .ok (push ⟨(first :: rest).map moved⟩ (moved first)) := by
  obtain ⟨center?, found⟩ := exists_centroid? ⟨first :: rest⟩
  rw [scale, scale, centroid?_push_first many isOpen, found, Checked.ok_bind, Checked.ok_bind]
  cases center? with
  | none => exact ⟨id, by simp⟩
  | some center =>
    have each (p : Point Exact) := p.scaleAround_eq_ok center factor
    refine ⟨_, mapPoints_eq_ok fun p _ => each p, ?_⟩
    have all := mapPoints_eq_ok (g := center.scaled factor) fun p
      (_ : p ∈ (push ⟨first :: rest⟩ first).points) => each p
    simpa [Polyline.push] using all

end Polyline

/-! ### Dashes -/

namespace DashedLine

theorem closeIf_cons {first : Point Exact} {rest : List (Point Exact)}
    (many : 2 ≤ rest.length) : closeIf true ⟨first :: rest⟩ =
      if Polyline.isClosed ⟨first :: rest⟩ then ⟨first :: rest⟩
      else Polyline.push ⟨first :: rest⟩ first := by
  have several : (true && decide ((first :: rest).length > 2)) = true := by simpa using many
  rw [closeIf, if_pos several]
  cases rest with
  | nil => simp at many
  | cons second rest => rfl

/-- The dashes around a ring are drawn alike whether or not its first point is repeated. -/
theorem draw_push_first (settings : Settings Exact) (first : Point Exact)
    {rest : List (Point Exact)} (many : 2 ≤ rest.length) :
    ∃ line longer, ofShape settings ⟨first :: rest⟩ true = .ok line ∧
      ofShape settings (Polyline.push ⟨first :: rest⟩ first) true = .ok longer ∧
      ∀ kind width state,
        longer.draw settings kind width state = line.draw settings kind width state := by
  have shorter : closeIf true ⟨first :: rest⟩ = _ := closeIf_cons many
  have already : closeIf true (Polyline.push ⟨first :: rest⟩ first) =
      Polyline.push ⟨first :: rest⟩ first := by
    have moreMany : 2 ≤ (rest ++ [first]).length := by
      rw [List.length_append]
      omega
    exact (closeIf_cons moreMany).trans (if_pos (Polyline.isClosed_push_first first rest))
  change ∃ line longer, ofShape settings (closeIf true ⟨first :: rest⟩) false = .ok line ∧
    ofShape settings (closeIf true (Polyline.push ⟨first :: rest⟩ first)) false = .ok longer ∧ _
  rw [already, shorter]
  split
  next closed =>
    -- The ring has come back already, so repeating the point adds a run without dashes.
    have ends : (first :: rest).getLast? = some first := by
      cases rest with
      | nil => simp at many
      | cons second rest => exact Polyline.isClosed_iff.mp closed
    obtain ⟨before, ending⟩ := List.getLast?_eq_some_iff.mp ends
    obtain ⟨line, made⟩ := exists_ofShape settings ⟨first :: rest⟩ false
    have agree := ofShape_gapped settings first.isFinite before []
    rw [← ending, made] at agree
    obtain ⟨longer, madeLonger, gapped⟩ := agree.exists_ok rfl
    refine ⟨line, longer, made, ?_, gapped.draw settings⟩
    rw [← madeLonger, Polyline.push, ending, List.append_assoc]
    rfl
  next =>
    obtain ⟨line, made⟩ := exists_ofShape settings (Polyline.push ⟨first :: rest⟩ first) false
    exact ⟨line, line, made, made, fun _ _ _ => rfl⟩

end DashedLine

namespace Contour

theorem closedShape_eq_ok {kind : OutlineKind} {settings : Settings Exact}
    {shape scaled : Polyline Exact} {exaggeration : Exact} {lineWidth : Option Exact}
    {line : DashedLine Exact} (positive : ¬exaggeration ≤ 0)
    (grown : shape.scale exaggeration = .ok scaled)
    (dashed : DashedLine.ofShape settings scaled true = .ok line) :
    closedShape kind settings shape exaggeration lineWidth =
      .ok (.silent (Drawing.onLayer kind.layer (line.draw settings kind lineWidth .start).1)) := by
  simp only [closedShape, if_neg positive, grown, dashed, Checked.ok_bind]
  rfl

theorem exists_closedShape (kind : OutlineKind) (settings : Settings Exact)
    (shape : Polyline Exact) (exaggeration : Exact) (lineWidth : Option Exact) :
    ∃ noted, closedShape kind settings shape exaggeration lineWidth = .ok noted := by
  by_cases nothing : exaggeration ≤ 0
  · exact ⟨_, if_pos nothing⟩
  · obtain ⟨scaled, grown⟩ := shape.exists_scale exaggeration
    obtain ⟨line, dashed⟩ := DashedLine.exists_ofShape settings scaled true
    exact ⟨_, closedShape_eq_ok nothing grown dashed⟩

/-! ### Main result -/

/-- Around an open ring and around the closed one the same contour is drawn, and neither is ever a
fault. With only two points there would be no ring: closing those adds a way back. -/
theorem closedShape_closeLoop (kind : OutlineKind) (settings : Settings Exact)
    (shape : Polyline Exact) (exaggeration : Exact) (lineWidth : Option Exact)
    (many : 3 ≤ shape.points.length) :
    ∃ noted, closedShape kind settings shape exaggeration lineWidth = .ok noted ∧
      closedShape kind settings shape.closeLoop exaggeration lineWidth = .ok noted := by
  obtain ⟨first, second, rest, several, rfl⟩ : ∃ first second rest,
      2 ≤ (second :: rest).length ∧ shape = ⟨first :: second :: rest⟩ := by
    obtain ⟨points⟩ := shape
    match points, many with
    | first :: second :: third :: rest, _ => exact ⟨first, second, third :: rest, by simp, rfl⟩
  have loop : Polyline.closeLoop ⟨first :: second :: rest⟩ =
    if Polyline.isClosed ⟨first :: second :: rest⟩ then ⟨first :: second :: rest⟩
    else Polyline.push ⟨first :: second :: rest⟩ first := rfl
  rw [loop]
  split
  next =>
    obtain ⟨noted, drawn⟩ := exists_closedShape kind settings ⟨first :: second :: rest⟩
      exaggeration lineWidth
    exact ⟨noted, drawn, drawn⟩
  next isOpen =>
    by_cases nothing : exaggeration ≤ 0
    · exact ⟨_, if_pos nothing, if_pos nothing⟩
    · obtain ⟨moved, grown, grownLoop⟩ := Polyline.scale_push_first several isOpen exaggeration
      have stillMany : 2 ≤ ((second :: rest).map moved).length := by
        rw [List.length_map]
        exact several
      obtain ⟨line, longer, dashed, dashedLoop, alike⟩ :=
        DashedLine.draw_push_first settings (moved first) stillMany
      refine ⟨_, closedShape_eq_ok nothing grown dashed, ?_⟩
      rw [← alike]
      exact closedShape_eq_ok nothing grownLoop dashedLoop

/-- A triangle that is left open, drawn a thousand times smaller: rounding moves its corners onto
one point. -/
theorem closedShape_closeLoop_of_triangle :
    3 ≤ (Polyline.mk [⟨0, 0⟩, ⟨1 / 100, 0⟩, ⟨0, 1 / 100⟩] : Polyline Exact).points.length ∧
    (Polyline.mk [⟨0, 0⟩, ⟨1 / 100, 0⟩, ⟨0, 1 / 100⟩] : Polyline Exact).isClosed = false ∧
    ∃ noted, closedShape .inspect .standard
        (Polyline.mk [⟨0, 0⟩, ⟨1 / 100, 0⟩, ⟨0, 1 / 100⟩] : Polyline Exact) (1 / 1000) none =
        .ok noted ∧
      closedShape .inspect .standard
        (Polyline.mk [⟨0, 0⟩, ⟨1 / 100, 0⟩, ⟨0, 1 / 100⟩] : Polyline Exact).closeLoop (1 / 1000)
        none = .ok noted := by
  have isOpen : ¬(Polyline.mk [⟨0, 0⟩, ⟨1 / 100, 0⟩, ⟨0, 1 / 100⟩] : Polyline Exact).isClosed := by
    rw [Polyline.isClosed_iff]
    simp [Polyline.last?, Exact.ext_iff]
  exact ⟨by simp, by simpa using isOpen,
    closedShape_closeLoop .inspect .standard _ _ none (by simp)⟩

end Contour

end RoadSketch
