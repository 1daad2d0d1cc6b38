import RoadSketch.Distance

/-!
# Windows

Which part of a path is kept, and where positions on a lane may lie. Windows span at least one
position step, and positions stay one step away from the ends of their lane.
-/
namespace RoadSketch

variable {α : Type} [Scalar α]

structure Window (α : Type) where
  start : Distance α
  finish : Distance α
  deriving Repr

namespace Window

/-- Brings a window onto a path of some length. -/
def fit (start finish length : Distance α) : Checked α (Window α) := do
  let latest ← length.sub Distance.positionStep
  -- The start is pulled back from the end of the path, and the end cut off there.
  let start := if start > latest then latest else start
  let finish := if finish > length then length else finish
  -- What is left may be empty or backwards: then the end is moved behind the start.
  if finish ≤ start then return ⟨start, ← start.add Distance.positionStep⟩
  return ⟨start, finish⟩

/-- The window between two positions. -/
def ofPositions (start finish length : Distance α) : Checked α (Window α) :=
  -- A negative start means the whole path, whatever the end is.
  if start < Distance.zero then fit Distance.zero length length else fit start finish length

/-- A trim that is given and not negative. -/
def usable? (trim : Option (Distance α)) : Option (Distance α) :=
  trim.filter fun d => decide (d ≥ Distance.zero)

/-- The window that two trims leave; a missing or negative one leaves its end of the path alone. -/
def ofTrims (start finish : Option (Distance α)) (length : Distance α) : Checked α (Window α) :=
  fit ((usable? start).getD Distance.zero) ((usable? finish).getD length) length

end Window

/-- Moves a position away from the ends of its lane, first from the start and then from the end. -/
def keepInside (position length : Distance α) : Checked α (Distance α) := do
  let position := if position < Distance.positionStep then Distance.positionStep else position
  let latest ← length.sub Distance.positionStep
  return if position > latest then latest else position

def keepInside? : Option (Distance α) → Option (Distance α) → Checked α (Option (Distance α))
  | some position, some length => return some (← keepInside position length)
  | position, _ => return position

/-- Brings the ends of a path inside their lanes. -/
def adjustPathEnds (start startLength finish finishLength : Option (Distance α)) (sameLane : Bool) :
    Checked α (Option (Distance α) × Option (Distance α)) := do
  let finish ← match start, finish with
    | some first, some last =>
      -- On one lane of known length, the end has to come after the start.
      if sameLane && startLength.isSome && finishLength.isSome && decide (first ≥ last) then
        pure (some (← first.add Distance.positionStep))
      else pure (some last)
    | _, _ => pure finish
  return (← keepInside? start startLength, ← keepInside? finish finishLength)

end RoadSketch
