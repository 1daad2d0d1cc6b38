import RoadSketch.Canvas.Command
import RoadSketch.Dash.Color

/-!
# Dashed lines

A line broken into dashes. Every segment of a shape becomes a run of evenly spaced dashes that keeps
their bearings and lengths at hand.
-/
namespace RoadSketch

variable {α : Type} [Scalar α]

/-- Draws boxes, each in the next color. -/
def alternating (dashes : DashSettings α) (kind : OutlineKind) :
    Alternation → Drawing α → Drawing α × Alternation
  | state, [] => ([], state)
  | state, box :: rest =>
    let (color, next) := state.next dashes kind
    let (drawing, last) := alternating dashes kind next rest
    (.setColor color :: box :: drawing, last)

/-- Dashes in a row. The offset is 1 or -1. -/
structure DashRun (α : Type) where
  shape : Polyline α
  bearings : List α
  lengths : List (Distance α)
  offset : Int
  deriving Repr

namespace DashRun

def ofShape (shape : Polyline α) (offset : Int) : Checked α (DashRun α) :=
  return ⟨shape, shape.bearings, ← shape.lengths, offset⟩

def between (start finish : Point α) (step : Distance α) (offset : Int) : Checked α (DashRun α) := do
  ofShape (← (Polyline.mk [start, finish]).resample step true) offset

def shift (run : DashRun α) (width : α) : Checked α (DashRun α) := do
  ofShape (← run.shape.shift width) run.offset

def invert (run : DashRun α) : DashRun α := { run with offset := -run.offset }

def boxes (run : DashRun α) (width : α) : Drawing α :=
  Drawing.boxes run.shape run.bearings run.lengths width

end DashRun

/-- A dashed line with the width of its dashes. -/
structure DashedLine (α : Type) where
  runs : List (DashRun α)
  width : α
  deriving Repr

namespace DashedLine

def empty : DashedLine α := ⟨[], 0⟩

/-- Lines longer than this have longer dashes. -/
def greatestLength : α := 500

/-- The greatest length of a dash along a line of some length. -/
def dashLength (settings : Settings α) (length : Distance α) : Checked α (Distance α) := do
  -- A very long line has a fixed count of longer dashes.
  if length > (← Distance.ofMeters greatestLength) then length.divide 250
  else Distance.ofMeters settings.dashes.length

def closeIf (close : Bool) (shape : Polyline α) : Polyline α :=
  -- With two points or fewer there is nothing to go around.
  if close && decide (shape.points.length > 2) then shape.closeLoop else shape

def ofSegments (settings : Settings α) (shape : Polyline α) (step : Distance α) :
    Checked α (DashedLine α) := do
  let runs ← shape.segments.mapM fun line => DashRun.between line.start line.finish step (-1)
  return ⟨runs, settings.dashes.width⟩

/-- The dashed line along a shape. -/
def ofShape (settings : Settings α) (shape : Polyline α) (close : Bool) :
    Checked α (DashedLine α) := do
  let shape := closeIf close shape
  ofSegments settings shape (← dashLength settings (← shape.length))

/-- The dashed line along a shape, with dashes of the usual length however long it is. -/
def redraw (settings : Settings α) (shape : Polyline α) (close : Bool) :
    Checked α (DashedLine α) := do
  ofSegments settings (closeIf close shape) (← Distance.ofMeters settings.dashes.length)

/-- A connector between two points that are both known. -/
def connector? (start finish : Option (Point α)) (step : Distance α) (offset : Int) :
    Checked α (List (DashRun α)) :=
  match start, finish with
  | some p, some q => return [← DashRun.between p q step offset]
  | _, _ => return []

/-- Joins the starts and the ends of two dashed lines, as far as that is wanted. -/
def connectors (settings : Settings α) (top : DashedLine α) (joinStarts : Bool)
    (bottom : DashedLine α) (joinEnds : Bool) : Checked α (DashedLine α) := do
  let step ← Distance.ofMeters settings.dashes.length
  match top.runs.head?, top.runs.getLast?, bottom.runs.head?, bottom.runs.getLast? with
  | some topFirst, some topLast, some bottomFirst, some bottomLast =>
    let starts ← if joinStarts then
        connector? topFirst.shape.first? bottomFirst.shape.first? step (-1)
      else pure []
    let ends ← if joinEnds then
        connector? topLast.shape.last? bottomLast.shape.last? step 1
      else pure []
    return ⟨starts ++ ends, settings.dashes.width⟩
  -- A line without runs has no ends.
  | _, _, _, _ => return ⟨[], settings.dashes.width⟩

def shift (line : DashedLine α) (width : α) : Checked α (DashedLine α) :=
  return { line with runs := ← line.runs.mapM (·.shift width) }

def invert (line : DashedLine α) : DashedLine α := { line with runs := line.runs.map DashRun.invert }

def withWidth (line : DashedLine α) (width : α) : DashedLine α := { line with width := width }

/-- A change that an editor makes to a dashed line. -/
inductive Edit (α : Type) where
  | redraw (shape : Polyline α) (close : Bool)
  | followLane (shape : Polyline α)
  | shift (width : α)
  | invert
  | setWidth (width : α)
  deriving Repr

/-- Makes one change. -/
def edit (settings : Settings α) (line : DashedLine α) : Edit α → Checked α (DashedLine α)
  | .redraw shape close => redraw settings shape close
  | .followLane shape => redraw settings shape false
  | .shift width => line.shift width
  | .invert => return line.invert
  | .setWidth width => return line.withWidth width

def edits (settings : Settings α) (line : DashedLine α) (changes : List (Edit α)) :
    Checked α (DashedLine α) :=
  changes.foldlM (edit settings) line

def drawnWidth (line : DashedLine α) (width : Option α) : α :=
  -- A given width counts only if it is positive.
  (width.filter fun w => decide (w > 0)).getD line.width

def boxes (line : DashedLine α) (width : Option α) : Drawing α :=
  line.runs.flatMap (·.boxes (line.drawnWidth width))

def draw (line : DashedLine α) (settings : Settings α) (kind : OutlineKind) (width : Option α)
    (state : Alternation) : Drawing α × Alternation :=
  alternating settings.dashes kind state (line.boxes width)

end DashedLine

end RoadSketch
