import RoadSketch.Angle
import RoadSketch.Distance

/-!
# Points

A point of the plane, in meters. Points that come out of a calculation are kept in the stored
precision and are faults when a coordinate is not finite.
-/
namespace RoadSketch

structure Point (α : Type) where
  x : α
  y : α
  deriving Repr

namespace Point

variable {α : Type} [Scalar α]

instance : BEq (Point α) := ⟨fun p q => p.x == q.x && p.y == q.y⟩

def ofCoordinates (x y : α) : Checked α (Point α) :=
  if Scalar.isFinite x && Scalar.isFinite y then .ok ⟨Scalar.trim x, Scalar.trim y⟩
  else .error (.badPoint x y)

def isNear (p q : Point α) (threshold : Distance α) : Bool :=
  -- The near points form a box, not a disc.
  Scalar.abs (p.x - q.x) < threshold.meters && Scalar.abs (p.y - q.y) < threshold.meters

/-- Are two points the same up to the tolerance? -/
def coincides (p q : Point α) : Bool := p.isNear q Distance.tolerance

def project (p : Point α) (distance : Distance α) (angle : Angle α) : Checked α (Point α) :=
  if Distance.zero ≤ distance then
    let radians := angle.normalRadians
    ofCoordinates (p.x + distance.meters * Scalar.cos radians)
      (p.y + distance.meters * Scalar.sin radians)
  else .error .negativeReach

def angleTo (p q : Point α) : Angle α := ⟨Scalar.atan2 (q.y - p.y) (q.x - p.x)⟩

def squaredDistanceTo (p q : Point α) : α := Scalar.square (p.x - q.x) + Scalar.square (p.y - q.y)

/-- The distance before it is brought to the stored precision. -/
def exactDistanceTo (p q : Point α) : α := Scalar.sqrt (p.squaredDistanceTo q)

def distanceTo (p q : Point α) : Checked α (Distance α) := Distance.ofMeters (p.exactDistanceTo q)

def translate (p : Point α) (dx dy : α) : Checked α (Point α) := ofCoordinates (p.x + dx) (p.y + dy)

def rotate (p : Point α) (angle : Angle α) : Checked α (Point α) :=
  let sin := Scalar.sin angle.normalRadians
  let cos := Scalar.cos angle.normalRadians
  ofCoordinates (p.x * cos - p.y * sin) (p.x * sin + p.y * cos)

/-- Moves a point along the ray from `center` through it. -/
def scaleAround (p center : Point α) (factor : α) : Checked α (Point α) :=
  ofCoordinates (center.x + (p.x - center.x) * factor) (center.y + (p.y - center.y) * factor)

/-- The compass bearing from one point to another, in degrees. -/
def bearingTo (p q : Point α) : α := Scalar.degrees (Scalar.atan2 (q.x - p.x) (p.y - q.y))

end Point

structure Circle (α : Type) where
  center : Point α
  radius : Distance α
  deriving Repr

def Circle.contains {α : Type} [Scalar α] (circle : Circle α) (p : Point α) : Bool :=
  p.squaredDistanceTo circle.center ≤ Scalar.square circle.radius.meters

end RoadSketch
