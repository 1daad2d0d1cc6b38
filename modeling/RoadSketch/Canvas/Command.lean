import RoadSketch.Color.Basic
import RoadSketch.Ribbon.Basic

/-!
# Drawings

What is drawn, as a list of commands for a canvas with a stack of transforms, a current color, and
primitives in world space. Drawing means to append commands, so a drawing is put together from
drawings.
-/
namespace RoadSketch

variable {α : Type} [Scalar α]

inductive Command (α : Type) where
  | pushTransform
  | popTransform
  /-- Moves what follows; `dz` moves it to another layer. -/
  | translate (dx dy dz : α)
  | rotate (degrees : α)
  | setColor (color : Color)
  /-- A rectangle that starts at `origin`, points along `bearing`, is `length` long and `2 * width`
  wide, and is moved sideways by `offset`. -/
  | box (origin : Point α) (bearing : α) (length : Distance α) (width offset : α)
  | line (shape : Polyline α)
  | disc (circle : Circle α) (resolution : Nat)
  | text (text : String) (position : Point α) (layer size : α) (color : Color)
  /-- An arrowhead at `tip` that points away from `tail`. -/
  | arrowhead (tail tip : Point α) (width length offset : α)
  deriving Repr

abbrev Drawing (α : Type) := List (Command α)

namespace Drawing

/-- Draws something under transforms of its own. -/
def isolated (drawing : Drawing α) : Drawing α := .pushTransform :: drawing ++ [.popTransform]

/-- Draws something on another layer. -/
def onLayer (layer : α) (drawing : Drawing α) : Drawing α :=
  isolated (.translate 0 0 layer :: drawing)

/-- The boxes along a shape, one for every point that has a bearing and a length. -/
def boxes (shape : Polyline α) (bearings : List α) (lengths : List (Distance α)) (width : α) :
    Drawing α :=
  (shape.points.zip (bearings.zip lengths)).map fun (p, bearing, length) =>
    .box p bearing length width 0

/-- The boxes along a shape, each in the next color. -/
def coloredBoxes (shape : Polyline α) (bearings : List α) (lengths : List (Distance α))
    (colors : List Color) (width : α) : Drawing α :=
  ((boxes shape bearings lengths width).zipIdx).flatMap fun (box, i) =>
    match colors[i]? with
    | some color => [.setColor color, box]
    -- When the colors run out, the last one stays.
    | none => [box]

def boxesAlong (shape : Polyline α) (width : α) : Checked α (Drawing α) :=
  return boxes shape shape.bearings (← shape.lengths) width

/-- A box with the color it was drawn in. -/
structure ColoredBox (α : Type) where
  color : Color
  origin : Point α
  bearing : α
  length : Distance α
  width : α
  deriving Repr

/-- The boxes of a drawing that starts in some color. -/
def coloredBoxesFrom (color : Color) : Drawing α → List (ColoredBox α)
  | [] => []
  | .setColor next :: rest => coloredBoxesFrom next rest
  | .box origin bearing length width _ :: rest =>
    ⟨color, origin, bearing, length, width⟩ :: coloredBoxesFrom color rest
  | _ :: rest => coloredBoxesFrom color rest

/-- Every box with its color. Before any color is set it is black. -/
def toColoredBoxes (drawing : Drawing α) : List (ColoredBox α) := coloredBoxesFrom .black drawing

/-- Does every push have its pop, and every pop its push, with `depth` pushes open at first? -/
def balancedFrom : Nat → Drawing α → Bool
  | depth, [] => depth = 0
  | depth, .pushTransform :: rest => balancedFrom (depth + 1) rest
  | 0, .popTransform :: _ => false
  | depth + 1, .popTransform :: rest => balancedFrom depth rest
  | depth, _ :: rest => balancedFrom depth rest

def isBalanced (drawing : Drawing α) : Bool := balancedFrom 0 drawing

end Drawing

end RoadSketch
