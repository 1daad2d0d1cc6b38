import RoadSketch.Id
import RoadSketch.Number.Text

/-!
# Faults

The reasons why an operation has no result, and their wording.
-/
namespace RoadSketch

/-- Why an operation stopped. -/
inductive Fault (α : Type) where
  -- Coordinates and distances have to be finite.
  | badPoint (x y : α)
  | badDistance (meters : α)
  -- Nothing is divided by zero, nor by no distance at all.
  | emptyDivisor (dividend divisor : α)
  | zeroDivisor (dividend divisor : α)
  | shortSegment (x₁ y₁ x₂ y₂ : α)
  /-- A point was to be moved away by less than nothing. -/
  | negativeReach
  /-- Something was asked for by an index that nothing is stored at. -/
  | missingItem
  /-- A color calculation left the range of 32-bit integers. -/
  | overflow
  /-- The geometry of a connection was asked for that does not exist. -/
  | noConnection (source target : LaneId)
  deriving Repr

/-- The outcome of an operation that may stop with a fault. -/
abbrev Checked (α β : Type) := Except (Fault α) β

namespace Fault

private def pointText (x y : Float) : String :=
  "Pt2D \x7b x: " ++ NumberLayout.detailed.double x ++ ", y: " ++ NumberLayout.detailed.double y ++ " \x7d"

def message : Fault Float → Option String
  | .badPoint x y =>
    some ("Bad Pt2D " ++ NumberLayout.plain.double x ++ ", " ++ NumberLayout.plain.double y)
  | .badDistance meters => some ("Bad Distance " ++ NumberLayout.plain.double meters)
  | .emptyDivisor dividend divisor =>
    some ("Can't divide " ++ NumberLayout.plain.double dividend ++ "m / " ++
      NumberLayout.plain.double divisor ++ "m")
  | .zeroDivisor dividend divisor =>
    some ("Can't divide " ++ NumberLayout.plain.double dividend ++ "m / " ++
      NumberLayout.plain.double divisor)
  | .shortSegment x₁ y₁ x₂ y₂ =>
    some ("Line from " ++ pointText x₁ y₁ ++ " to " ++ pointText x₂ y₂ ++ " too small")
  | .noConnection source target =>
    some ("No connection from " ++ toString source ++ " to " ++ toString target)
  | .negativeReach | .missingItem | .overflow => none

end Fault

end RoadSketch
