import RoadSketch.Proofs.Dash.Connectors
import RoadSketch.Proofs.Segments

/-!
# Measured dashes

The bearings and lengths that a dashed line keeps at hand are those of its own dashes, however the
line came about, so each dash is drawn over exactly the segment it stands for.
-/
namespace RoadSketch

variable {α : Type} [Scalar α]

/-- A run whose bearings and lengths are those of the segments of its shape. -/
structure DashRun.Measured (run : DashRun α) : Prop where
  bearings : run.bearings = run.shape.bearings
  lengths : run.shape.lengths = .ok run.lengths

namespace DashRun

theorem ofShape_measured {shape : Polyline α} {offset : Int} {run : DashRun α}
    (made : ofShape shape offset = .ok run) : run.Measured := by
  simp only [ofShape, Checked.bind_eq_ok, Checked.pure_eq_ok] at made
  obtain ⟨lengths, measured, rfl⟩ := made
  exact ⟨rfl, measured⟩

theorem between_measured {start finish : Point α} {step : Distance α} {offset : Int}
    {run : DashRun α} (made : between start finish step offset = .ok run) : run.Measured := by
  simp only [between, Checked.bind_eq_ok] at made
  obtain ⟨_, _, made⟩ := made
  exact ofShape_measured made

theorem Joins.measured {offset : Int} {run : DashRun α} (joins : run.Joins offset) :
    run.Measured := by
  obtain ⟨_, _, _, made⟩ := joins
  exact between_measured made

theorem shift_measured {run moved : DashRun α} {width : α}
    (shifted : run.shift width = .ok moved) : moved.Measured := by
  simp only [shift, Checked.bind_eq_ok] at shifted
  obtain ⟨_, _, shifted⟩ := shifted
  exact ofShape_measured shifted

theorem Measured.invert {run : DashRun α} (measured : run.Measured) : run.invert.Measured :=
  ⟨measured.bearings, measured.lengths⟩

theorem Measured.boxes_isBoxOf {run : DashRun α} (measured : run.Measured) (width : α) :
    List.Forall₂ (Command.IsBoxOf · width) run.shape.segments (run.boxes width) := by
  rw [boxes, measured.bearings]
  exact Drawing.boxes_isBoxOf measured.lengths width

end DashRun

namespace DashedLine

/-- The segments of all runs, in order: each of them is a dash. -/
def dashes (line : DashedLine α) : List (Line α) := line.runs.flatMap (·.shape.segments)

def Measured (line : DashedLine α) : Prop := ∀ run ∈ line.runs, run.Measured

theorem ofSegments_eq_ok {settings : Settings α} {shape : Polyline α} {step : Distance α}
    {line : DashedLine α} (made : ofSegments settings shape step = .ok line) :
    line.Measured ∧ line.width = settings.dashes.width := by
  obtain ⟨width, joins⟩ := joins_of_ofSegments made
  exact ⟨fun run member => (joins run member).measured, width⟩

theorem ofShape_eq_ok {settings : Settings α} {shape : Polyline α} {close : Bool}
    {line : DashedLine α} (made : ofShape settings shape close = .ok line) :
    line.Measured ∧ line.width = settings.dashes.width := by
  simp only [ofShape, Checked.bind_eq_ok] at made
  obtain ⟨_, _, _, _, made⟩ := made
  exact ofSegments_eq_ok made

theorem shift_eq_ok {line moved : DashedLine α} {width : α}
    (shifted : line.shift width = .ok moved) : moved.Measured ∧ moved.width = line.width := by
  simp only [shift, Checked.bind_eq_ok, Checked.pure_eq_ok] at shifted
  obtain ⟨runs, collected, rfl⟩ := shifted
  refine ⟨?_, rfl⟩
  intro run member
  obtain ⟨old, _, made⟩ := Checked.exists_of_mem_mapM collected member
  exact DashRun.shift_measured made

theorem Measured.invert {line : DashedLine α} (measured : line.Measured) :
    line.invert.Measured := by
  intro turned member
  obtain ⟨run, source, rfl⟩ := List.mem_map.mp member
  exact (measured run source).invert

theorem connectors_eq_ok {settings : Settings α} {top bottom line : DashedLine α}
    {joinStarts joinEnds : Bool}
    (joined : connectors settings top joinStarts bottom joinEnds = .ok line) :
    line.Measured ∧ line.width = settings.dashes.width := by
  obtain ⟨width, joins⟩ := joins_of_connectors joined
  refine ⟨fun run member => ?_, width⟩
  rcases joins run member with starting | ending
  · exact starting.measured
  · exact ending.measured

/-- One box for every dash, over the whole of it. -/
theorem Measured.boxes_isBoxOf {line : DashedLine α} (measured : line.Measured)
    (width : Option α) :
    List.Forall₂ (Command.IsBoxOf · (line.drawnWidth width)) line.dashes (line.boxes width) := by
  obtain ⟨runs, own⟩ := line
  simp only [dashes, boxes]
  generalize drawnWidth ⟨runs, own⟩ width = drawn
  induction runs with
  | nil => exact .nil
  | cons run rest ih =>
    simp only [List.flatMap_cons]
    have first := (measured run List.mem_cons_self).boxes_isBoxOf drawn
    exact List.rel_append first (ih fun run member => measured run (List.mem_cons_of_mem _ member))

end DashedLine

end RoadSketch
