import RoadSketch.Proofs.Dash.Connectors
import RoadSketch.Proofs.Polyline.Total

/-!
# Dashed lines with exact coordinates

With exact coordinates there are dashes along every shape and between any two points, whatever the
settings are.
-/
namespace RoadSketch

namespace DashRun

theorem exists_ofShape (shape : Polyline Exact) (offset : Int) :
    ∃ run, ofShape shape offset = .ok run ∧ run.shape = shape := by
  obtain ⟨lengths, measured⟩ := shape.exists_lengths
  refine ⟨⟨shape, shape.bearings, lengths, offset⟩, ?_, rfl⟩
  rw [ofShape, measured]
  rfl

/-- The dashes between two points lie along the resampled segment. -/
theorem exists_between_of_resample {start finish : Point Exact} {step : Distance Exact}
    {shape : Polyline Exact}
    (resampled : (Polyline.mk [start, finish]).resample step true = .ok shape) (offset : Int) :
    ∃ run, between start finish step offset = .ok run ∧ run.shape = shape := by
  rw [between, resampled, Checked.ok_bind]
  exact exists_ofShape shape offset

theorem exists_between (start finish : Point Exact) (step : Distance Exact) (offset : Int) :
    ∃ run, between start finish step offset = .ok run := by
  obtain ⟨shape, resampled⟩ := (Polyline.mk [start, finish]).exists_resample step true
  obtain ⟨run, made, _⟩ := exists_between_of_resample resampled offset
  exact ⟨run, made⟩

end DashRun

namespace DashedLine

theorem exists_ofSegments (settings : Settings Exact) (shape : Polyline Exact)
    (step : Distance Exact) : ∃ line, ofSegments settings shape step = .ok line := by
  obtain ⟨runs, made⟩ := Checked.exists_mapM shape.segments fun line =>
    DashRun.exists_between line.start line.finish step (-1)
  rw [ofSegments, made]
  exact ⟨_, rfl⟩

theorem exists_dashLength (settings : Settings Exact) (length : Distance Exact) :
    ∃ step, dashLength settings length = .ok step := by
  have divides : ((250 : Exact) == 0) = false := by simp [Exact.ext_iff]
  simp only [dashLength, Distance.divide, divides, Distance.ofMeters_eq_ok, Checked.ok_bind]
  split <;> exact ⟨_, rfl⟩

theorem exists_ofShape (settings : Settings Exact) (shape : Polyline Exact) (close : Bool) :
    ∃ line, ofShape settings shape close = .ok line := by
  simp only [ofShape, Polyline.length_eq_ok, Checked.ok_bind]
  obtain ⟨step, chosen⟩ := exists_dashLength settings
    ⟨Scalar.trim (closeIf close shape).exactLength⟩
  rw [chosen, Checked.ok_bind]
  exact exists_ofSegments settings _ step

theorem exists_wanted (join : Bool) (start finish : Option (Point Exact)) (step : Distance Exact)
    (offset : Int) : ∃ runs, wanted join start finish step offset = .ok runs := by
  cases join with
  | false => exact ⟨[], rfl⟩
  | true =>
    cases start with
    | none => exact ⟨[], rfl⟩
    | some p =>
      cases finish with
      | none => exact ⟨[], rfl⟩
      | some q =>
        obtain ⟨run, made⟩ := DashRun.exists_between p q step offset
        exact ⟨[run], by simp [wanted, connector?, made]⟩

end DashedLine

end RoadSketch
