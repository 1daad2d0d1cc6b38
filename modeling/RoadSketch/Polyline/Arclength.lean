import RoadSketch.Polyline.Basic

/-!
# Positions along polylines

Points and directions at some distance along a polyline, the nearest position to a point, the piece
between two positions, and evenly spaced points. Positions beyond the ends are taken to the ends.
-/
namespace RoadSketch.Polyline

variable {α : Type} [Scalar α]

/-- Where a position falls: its point, and the segment that holds it. -/
structure Location (α : Type) where
  point : Point α
  line : Option (Line α)
  deriving Repr

/-- Walks along the segments with `seen` meters behind and `last` the latest segment of any length. -/
def locateAmong (start : Point α) (distance : α) :
    α → Option (Line α) → List (Line α) → Checked α (Location α)
  | _, none, [] => .ok ⟨start, none⟩
  | _, some line, [] => .ok ⟨line.finish, some line⟩
  | seen, last, line :: rest =>
    let length := line.exactLength
    -- Segments of no length have no direction.
    if length ≤ 0 then locateAmong start distance seen last rest
    else if distance < seen + length then do
      let along := Scalar.greater (distance - seen) 0
      return ⟨← line.pointAtShare (along / length), some line⟩
    else locateAmong start distance (seen + length) (some line) rest

/-- Where some distance along falls. -/
def locate? (shape : Polyline α) (distance : α) : Checked α (Option (Location α)) :=
  match shape.first? with
  | none => return none
  | some start => return some (← locateAmong start distance 0 none shape.segments)

def pointAt? (shape : Polyline α) (distance : Distance α) : Checked α (Option (Point α)) := do
  return (← shape.locate? distance.meters).map (·.point)

/-- The point some distance along, moved sideways from the segment that holds it: to the right if
the offset is positive. -/
def pointBeside? (shape : Polyline α) (distance : Distance α) (lateral : α) :
    Checked α (Option (Point α)) := do
  match ← shape.locate? distance.meters with
  | none => return none
  | some ⟨point, none⟩ => return some point
  | some ⟨point, some line⟩ =>
    if lateral == 0 then return some point
    let share := (← (Line.mk line.start point).length).share (← line.length)
    return some (← (← line.shift lateral).pointAtShare share)

def directionAt? (shape : Polyline α) (distance : Distance α) : Checked α (Option (Angle α)) := do
  return ((← shape.locate? distance.meters).bind (·.line)).map (·.angle)

/-- Drops the segments that end before `begin`. Returns the length dropped and what is left. -/
def dropBefore (begin : α) : α → List (Line α) → α × List (Line α)
  | seen, [] => (seen, [])
  | seen, line :: rest =>
    let next := seen + line.exactLength
    if next < begin then dropBefore begin next rest else (seen, line :: rest)

def appendBefore (finish : α) : Polyline α → α → List (Line α) → Polyline α
  | shape, _, [] => shape
  | shape, seen, line :: rest =>
    let next := seen + line.exactLength
    if next < finish then appendBefore finish (shape.append line.finish) next rest else shape

/-- The piece between two positions. -/
def slice (shape : Polyline α) (begin finish : Distance α) : Checked α (Polyline α) := do
  if shape.points.length < 2 then return shape
  let total ← shape.length
  let start? ← if begin > Distance.zero then shape.pointAt? begin else pure shape.first?
  let last? ← if finish < total then shape.pointAt? finish else pure shape.last?
  match start?, last? with
  | some start, some last =>
    let (seen, lines) := dropBefore begin.meters 0 shape.segments
    let piece := (appendBefore finish.meters ⟨[start]⟩ seen lines).append last
    -- Both ends may fall on one spot, which is then repeated.
    return if piece.points.length = 1 then piece.push last else piece
  | _, _ => return empty

/-- The state of a search for the nearest position: the best one so far with its squared distance,
and the length that is behind. -/
structure NearestSearch (α : Type) where
  best : Option (α × Distance α)
  seen : Distance α
  deriving Repr

def NearestSearch.step (p : Point α) (search : NearestSearch α) (line : Line α) :
    Checked α (NearestSearch α) := do
  let length ← line.length
  if length == Distance.zero then return search
  let along ← line.nearestOffset p
  let squared := (← line.pointAt along).squaredDistanceTo p
  -- The earlier of two equally near positions is kept.
  let isBetter := match search.best with
    | some (best, _) => decide (squared < best)
    | none => true
  let best ← if isBetter then pure (some (squared, ← search.seen.add along)) else pure search.best
  return ⟨best, ← search.seen.add length⟩

/-- How far along the polyline its nearest point to `p` is. -/
def nearestOffset (shape : Polyline α) (p : Point α) : Checked α (Distance α) := do
  let search ← shape.segments.foldlM (NearestSearch.step p) ⟨none, Distance.zero⟩
  return match search.best with
    | some (_, along) => along
    | none => Distance.zero

/-- Evenly spaced points from the first to the last, at most `step` apart. -/
def resample (shape : Polyline α) (step : Distance α) (keepEnd : Bool) : Checked α (Polyline α) := do
  if step ≤ Distance.zero then return empty
  let length := shape.exactLength
  if length < Distance.tolerance.meters then return empty
  let pieces := max 1 (Scalar.ceilNat (length / step.meters))
  let locations ← (List.range (pieces + 1)).mapM fun i =>
    shape.locate? (length * Scalar.ofNat i / Scalar.ofNat pieces)
  let result : Polyline α := ⟨locations.filterMap (·.map (·.point))⟩
  -- The last piece may end next to the last point, up to rounding.
  match shape.last? with
  | some last => return if keepEnd && result.last? != some last then result.push last else result
  | none => return result

end RoadSketch.Polyline
