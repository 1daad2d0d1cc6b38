import RoadSketch.Polyline.Basic

/-!
# Areas and centers

The area that a polyline encloses as a ring, its center of mass, and scaling around that center.
-/
namespace RoadSketch.Polyline

variable {α : Type} [Scalar α]

/-- Twice the signed area between a segment and the origin. -/
def crossProduct (line : Line α) : α :=
  line.start.x * line.finish.y - line.finish.x * line.start.y

/-- The segments of the ring through all points, with the one from the last back to the first. -/
def ringSegments (shape : Polyline α) : List (Line α) :=
  shape.points.zipWith Line.mk (shape.points.tail ++ shape.points.take 1)

def area (shape : Polyline α) : α :=
  if shape.points.length < 3 then 0
  else Scalar.abs (shape.ringSegments.foldl (fun sum line => sum + crossProduct line) 0 / 2)

/-- Sums of coordinates with weights, and the sum of the weights. -/
structure Moment (α : Type) where
  x : α
  y : α
  weight : α
  deriving Repr

/-- The moment of the enclosed area, up to a common factor. -/
def areaMoment (lines : List (Line α)) : Moment α :=
  lines.foldl (fun sum line =>
    let z := crossProduct line
    ⟨sum.x + (line.start.x + line.finish.x) * z, sum.y + (line.start.y + line.finish.y) * z,
      sum.weight + z⟩) ⟨0, 0, 0⟩

def lengthMoment (lines : List (Line α)) : Moment α :=
  lines.foldl (fun sum line =>
    let length := line.exactLength
    ⟨sum.x + (line.start.x + line.finish.x) * length / 2,
      sum.y + (line.start.y + line.finish.y) * length / 2, sum.weight + length⟩) ⟨0, 0, 0⟩

/-- The center of mass of the enclosed area. -/
def centroid? (shape : Polyline α) : Checked α (Option (Point α)) := do
  match shape.points with
  | [] => return none
  | first :: _ =>
    let ring := if shape.isClosed then shape else shape.push first
    if shape.area != 0 then
      let moment := areaMoment ring.segments
      let divisor := moment.weight * 3
      return some (← Point.ofCoordinates (moment.x / divisor) (moment.y / divisor))
    -- Without any area, the segments have weight, and without any length, the first point.
    let moment := lengthMoment ring.segments
    if moment.weight == 0 then return some first
    return some (← Point.ofCoordinates (moment.x / moment.weight) (moment.y / moment.weight))

def scale (shape : Polyline α) (factor : α) : Checked α (Polyline α) := do
  match ← shape.centroid? with
  | some center => shape.mapPoints (·.scaleAround center factor)
  | none => return shape

end RoadSketch.Polyline
