import RoadSketch.Point

/-!
# Line segments

A segment from one point to another, with positions along it, parallel segments and intersections.
-/
namespace RoadSketch

structure Line (α : Type) where
  start : Point α
  finish : Point α
  deriving Repr

namespace Line

variable {α : Type} [Scalar α]

/-- The segment between two points, which have to lie further apart than the tolerance. -/
def between (start finish : Point α) : Checked α (Line α) := do
  let length ← start.distanceTo finish
  if length ≤ Distance.tolerance then
    throw (.shortSegment start.x start.y finish.x finish.y)
  return ⟨start, finish⟩

def exactLength (line : Line α) : α := line.start.exactDistanceTo line.finish

def length (line : Line α) : Checked α (Distance α) := line.start.distanceTo line.finish

def angle (line : Line α) : Angle α := line.start.angleTo line.finish

def bearing (line : Line α) : α := line.start.bearingTo line.finish

def shift (line : Line α) (width : α) : Checked α (Line α) := do
  -- Positive widths are to the right of the direction of travel.
  let right := line.angle.turned 90
  let distance ← Distance.ofMeters (Scalar.abs width)
  let side := if width ≥ 0 then right else right.opposite
  return ⟨← line.start.project distance side, ← line.finish.project distance side⟩

/-- The point at some share of the way, which may lie beyond the ends. -/
def pointAtShare (line : Line α) (share : α) : Checked α (Point α) :=
  Point.ofCoordinates (line.start.x + share * (line.finish.x - line.start.x))
    (line.start.y + share * (line.finish.y - line.start.y))

def pointAt (line : Line α) (distance : Distance α) : Checked α (Point α) := do
  -- Beyond the ends, the nearer end is taken.
  line.pointAtShare (Scalar.clamp (distance.share (← line.length)) 0 1)

/-- How far along the segment its nearest point to `p` is. -/
def nearestOffset (line : Line α) (p : Point α) : Checked α (Distance α) := do
  let dx := line.finish.x - line.start.x
  let dy := line.finish.y - line.start.y
  let share := ((p.x - line.start.x) * dx + (p.y - line.start.y) * dy) / (dx * dx + dy * dy)
  (← line.length).scale (Scalar.clamp share 0 1)

/-- Where the infinite lines through two segments meet. -/
def intersection (l m : Line α) : Checked α (Option (Point α)) := do
  let cross := l.start.x * l.finish.y - l.start.y * l.finish.x
  let otherCross := m.start.x * m.finish.y - m.start.y * m.finish.x
  let dx := l.start.x - l.finish.x
  let dy := l.start.y - l.finish.y
  let otherDx := m.start.x - m.finish.x
  let otherDy := m.start.y - m.finish.y
  let denominator := dx * otherDy - dy * otherDx
  -- Relative to the lengths, so that short segments do not look parallel.
  let threshold := 1 / 1000000000 * (← l.length).meters * (← m.length).meters
  if Scalar.abs denominator ≤ threshold then return none
  return some (← Point.ofCoordinates ((cross * otherDx - dx * otherCross) / denominator)
    ((cross * otherDy - dy * otherCross) / denominator))

end Line

end RoadSketch
