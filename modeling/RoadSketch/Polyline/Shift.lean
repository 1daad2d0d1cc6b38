import RoadSketch.Polyline.Basic

/-!
# Parallel polylines

A polyline moved sideways. The corners of the moved polyline are where its neighbouring segments
meet, so its length differs but its points still belong to those of the polyline, one by one.
-/
namespace RoadSketch.Polyline

variable {α : Type} [Scalar α]

/-- Drops every point that coincides with the latest one kept, which is `kept` at first. -/
def dropRepeats (kept : Point α) : List (Point α) → List (Point α)
  | [] => []
  | p :: rest => if p.coincides kept then dropRepeats kept rest else p :: dropRepeats p rest

def withoutRepeats (shape : Polyline α) : Polyline α :=
  match shape.points with
  | [] => empty
  | first :: rest => ⟨first :: dropRepeats first rest⟩

/-- Where two neighbouring segments meet. -/
def corner (earlier later : Line α) : Checked α (Point α) := do
  -- Between parallel ones the end of the earlier one serves.
  return (← earlier.intersection later).getD earlier.finish

/-- Moves every point sideways: to the right of the direction of travel if the width is positive. -/
def shift (shape : Polyline α) (width : α) : Checked α (Polyline α) := do
  -- Repeated points would make segments without a direction.
  let kept := shape.withoutRepeats
  if kept.points.length < 2 || width == 0 then return kept
  let lines ← kept.segments.mapM (·.shift width)
  match lines.head?, lines.getLast? with
  | some first, some last =>
    let corners ← (lines.zip lines.tail).mapM fun (earlier, later) => corner earlier later
    return ⟨first.start :: corners ++ [last.finish]⟩
  | _, _ => return kept

end RoadSketch.Polyline
