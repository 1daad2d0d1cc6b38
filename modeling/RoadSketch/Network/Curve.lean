import RoadSketch.Polyline.Arclength

/-!
# Smooth curves

A cubic curve from the end of one path to the start of another, which leaves and enters in the
directions of the paths.
-/
namespace RoadSketch

variable {α : Type} [Scalar α]

structure Cubic (α : Type) where
  start : Point α
  startHandle : Point α
  finishHandle : Point α
  finish : Point α
  deriving Repr

namespace Cubic

def blend (t a b c d : α) : α :=
  let u := 1 - t
  a * (u * u * u) + b * 3 * (u * u) * t + c * 3 * u * (t * t) + d * (t * t * t)

def pointAt (curve : Cubic α) (t : α) : Checked α (Point α) :=
  Point.ofCoordinates
    (blend t curve.start.x curve.startHandle.x curve.finishHandle.x curve.finish.x)
    (blend t curve.start.y curve.startHandle.y curve.finishHandle.y curve.finish.y)

/-- Evenly spaced points of a curve. -/
def sample (curve : Cubic α) (count : Nat) : Checked α (Polyline α) := do
  let points ← (List.range count).mapM fun i =>
    curve.pointAt (Scalar.ofNat i / Scalar.ofNat (count - 1))
  -- A point that coincides with the one before is left out.
  return points.foldl Polyline.append Polyline.empty

end Cubic

/-- What a curve between two paths should be like. -/
structure CurveRequest (α : Type) where
  points : Nat
  isTurnaround : Bool
  /-- How far the curve may go straight on out of the first path. -/
  extendStart : α
  /-- How far the curve may go straight into the second path. -/
  extendFinish : α
  deriving Repr

def handleLength (request : CurveRequest α) (halfGap extension : α) : Checked α (Distance α) :=
  -- Without a turnaround it is at most half the gap, so that the curve does not overshoot.
  Distance.ofMeters
    (Scalar.greater (if request.isTurnaround then extension else Scalar.lesser extension halfGap) 0)

/-- The curve from the end of one path to the start of another. -/
def smoothCurve (source target : Polyline α) (request : CurveRequest α) : Checked α (Polyline α) := do
  match source.last?, target.first? with
  | some start, some finish =>
    let startAngle? ← source.directionAt? (← source.length)
    let finishAngle? ← target.directionAt? Distance.zero
    match startAngle?, finishAngle? with
    | some startAngle, some finishAngle =>
      if request.points < 2 then return ⟨[start, finish]⟩
      let halfGap := (← start.distanceTo finish).meters / 2
      let startHandle ←
        start.project (← handleLength request halfGap request.extendStart) startAngle
      let finishHandle ←
        finish.project (← handleLength request halfGap request.extendFinish) finishAngle.opposite
      (Cubic.mk start startHandle finishHandle finish).sample request.points
    -- A path whose points all coincide has no direction.
    | _, _ => return ⟨[start, finish]⟩
  | _, _ => return Polyline.empty

end RoadSketch
