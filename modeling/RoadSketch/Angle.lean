import RoadSketch.Scalar

/-!
# Angles

Zero points along the first axis, and angles grow towards the second one. As the second axis points
down on screens, that is clockwise.
-/
namespace RoadSketch

structure Angle (α : Type) where
  radians : α
  deriving Repr

namespace Angle

variable {α : Type} [Scalar α]

def ofDegrees (degrees : α) : Angle α := ⟨Scalar.radians degrees⟩

def opposite (angle : Angle α) : Angle α := ⟨angle.radians + Scalar.pi⟩

def turned (angle : Angle α) (degrees : α) : Angle α := ⟨angle.radians + Scalar.radians degrees⟩

/-- The same direction, within one turn from zero. -/
def normalRadians (angle : Angle α) : α := Scalar.modulo angle.radians (2 * Scalar.pi)

def normalDegrees (angle : Angle α) : α := Scalar.degrees angle.normalRadians

/-- The compass bearing of a direction, in degrees: zero points against the second axis and bearings
grow clockwise on screen. -/
def bearing (angle : Angle α) : α :=
  let radians := angle.normalRadians
  Scalar.degrees (Scalar.atan2 (Scalar.cos radians) (-Scalar.sin radians))

end Angle

end RoadSketch
