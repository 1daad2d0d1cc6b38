import RoadSketch.Polyline.Basic

/-!
# Circles as polygons

Points around a circle, taken from the unit circle at whole tenths of a degree. There, zero points
along the second axis and angles grow towards the first one.
-/
namespace RoadSketch

variable {α : Type} [Scalar α]

def turnSteps : Nat := 3600

/-- The tenth of a degree nearest to an angle in degrees, within one turn. -/
def nearestStep (degrees : α) : Nat :=
  (Scalar.floorInt (degrees * 10 + 1 / 2) % turnSteps).toNat

/-- The point of the unit circle at some tenth of a degree, up to a whole turn. -/
def unitPoint (step : Nat) : Checked α (α × α) :=
  if step ≤ turnSteps then
    let angle := Scalar.radians (Scalar.ofNat step / 10 : α)
    .ok (Scalar.sin angle, Scalar.cos angle)
  else .error .missingItem

/-- A polygon around a center with some count of sides. Its first point is repeated at the end. -/
def Polyline.ring (center : Point α) (radius : α) (sides : Nat) : Checked α (Polyline α) :=
  if sides = 0 then return Polyline.empty
  else do
    let side : α := 360 / Scalar.ofNat sides
    let points ← (List.range (sides + 1)).mapM fun i => do
      let (x, y) ← unitPoint (nearestStep (side * Scalar.ofNat i))
      Point.ofCoordinates (x * radius + center.x) (y * radius + center.y)
    return ⟨points⟩

end RoadSketch
