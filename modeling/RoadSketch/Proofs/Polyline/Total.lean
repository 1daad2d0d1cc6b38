import RoadSketch.Proofs.Plane
import RoadSketch.Ribbon.Basic

/-!
# Polylines with exact coordinates

With exact coordinates, the operations on polylines have a result for every polyline, however few
points it has and wherever they lie.
-/
namespace RoadSketch

namespace Polyline

theorem length_eq_ok (shape : Polyline Exact) :
    shape.length = .ok ⟨Scalar.trim shape.exactLength⟩ := Distance.ofMeters_eq_ok _

/-! ### Centers and scaling -/

theorem exists_centroid? (shape : Polyline Exact) : ∃ center?, shape.centroid? = .ok center? := by
  obtain ⟨points⟩ := shape
  cases points with
  | nil => exact ⟨none, rfl⟩
  | cons first rest =>
    simp only [centroid?, Point.ofCoordinates_eq_ok, Checked.ok_bind]
    generalize (if isClosed ⟨first :: rest⟩ then (⟨first :: rest⟩ : Polyline Exact)
      else push ⟨first :: rest⟩ first) = ring
    split
    · exact ⟨_, rfl⟩
    · split <;> exact ⟨_, rfl⟩

theorem mapPoints_eq_ok {α : Type} [Scalar α] {shape : Polyline α}
    {f : Point α → Checked α (Point α)} {g : Point α → Point α}
    (each : ∀ p ∈ shape.points, f p = .ok (g p)) :
    shape.mapPoints f = .ok ⟨shape.points.map g⟩ := by
  rw [mapPoints, Checked.mapM_eq_map each]
  rfl

theorem exists_scale (shape : Polyline Exact) (factor : Exact) :
    ∃ scaled, shape.scale factor = .ok scaled := by
  obtain ⟨center?, found⟩ := shape.exists_centroid?
  rw [scale, found, Checked.ok_bind]
  cases center? with
  | none => exact ⟨shape, rfl⟩
  | some center =>
    exact ⟨_, mapPoints_eq_ok fun p _ => p.scaleAround_eq_ok center factor⟩

/-- Scaling by one leaves a stored shape as it is. -/
theorem scale_one {shape : Polyline Exact} (grid : ∀ p ∈ shape.points, p.OnGrid) :
    shape.scale 1 = .ok shape := by
  obtain ⟨center?, found⟩ := shape.exists_centroid?
  rw [scale, found, Checked.ok_bind]
  cases center? with
  | none => rfl
  | some center =>
    have each : ∀ p ∈ shape.points, p.scaleAround center 1 = .ok (id p) := fun p member => by
      rw [p.scaleAround_eq_ok, (grid p member).scaled_one]
      rfl
    have kept := mapPoints_eq_ok each
    rwa [List.map_id] at kept

/-! ### Positions -/

theorem exists_lengths (shape : Polyline Exact) : ∃ lengths, shape.lengths = .ok lengths :=
  Checked.exists_mapM _ fun line => ⟨_, line.length_eq_ok⟩

theorem exists_locateAmong (start : Point Exact) (distance seen : Exact)
    (last : Option (Line Exact)) (lines : List (Line Exact)) :
    ∃ location, locateAmong start distance seen last lines = .ok location := by
  induction lines generalizing seen last with
  | nil => cases last <;> exact ⟨_, rfl⟩
  | cons line rest ih =>
    rw [locateAmong]
    split
    · exact ih seen last
    · split
      · simp only [Line.pointAtShare_eq_ok]
        exact ⟨_, rfl⟩
      · exact ih (seen + line.exactLength) (some line)

theorem exists_locate? (shape : Polyline Exact) (distance : Exact) :
    ∃ location?, shape.locate? distance = .ok location? := by
  unfold locate?
  split
  · exact ⟨none, rfl⟩
  · next start _ =>
    obtain ⟨location, found⟩ := exists_locateAmong start distance 0 none shape.segments
    rw [found]
    exact ⟨some location, rfl⟩

theorem exists_resample (shape : Polyline Exact) (step : Distance Exact) (keepEnd : Bool) :
    ∃ resampled, shape.resample step keepEnd = .ok resampled := by
  unfold resample
  split
  · exact ⟨empty, rfl⟩
  · dsimp only
    split
    · exact ⟨empty, rfl⟩
    · generalize max 1 _ = pieces
      obtain ⟨locations, found⟩ := Checked.exists_mapM (List.range (pieces + 1)) fun i =>
        shape.exists_locate? (shape.exactLength * Scalar.ofNat i / Scalar.ofNat pieces)
      rw [found, Checked.ok_bind]
      split <;> exact ⟨_, rfl⟩

end Polyline

end RoadSketch
