import RoadSketch.Line

/-!
# Polylines

An ordered sequence of points. It may be empty, hold a single point, or repeat points: shapes that
are being edited are all of those things at some moment.
-/
namespace RoadSketch

structure Polyline (α : Type) where
  points : List (Point α)
  deriving Repr

namespace Polyline

variable {α : Type} [Scalar α]

instance : BEq (Polyline α) := ⟨fun a b => a.points == b.points⟩

def empty : Polyline α := ⟨[]⟩

def first? (shape : Polyline α) : Option (Point α) := shape.points.head?

def last? (shape : Polyline α) : Option (Point α) := shape.points.getLast?

def push (shape : Polyline α) (p : Point α) : Polyline α := ⟨shape.points ++ [p]⟩

/-- Adds a point at the end, unless it coincides with the last one. -/
def append (shape : Polyline α) (p : Point α) : Polyline α :=
  match shape.last? with
  | some last => if last.coincides p then shape else shape.push p
  | none => shape.push p

def prepend (shape : Polyline α) (p : Point α) : Polyline α :=
  match shape.first? with
  | some first => if first.coincides p then shape else ⟨p :: shape.points⟩
  | none => ⟨[p]⟩

/-- Glues another polyline onto the end. -/
def extend (shape other : Polyline α) : Polyline α :=
  -- Every point is compared with the one before it, not only the first one.
  other.points.foldl append shape

def reversed (shape : Polyline α) : Polyline α := ⟨shape.points.reverse⟩

/-- The segment of every pair of neighbours, including those of no length. -/
def segments (shape : Polyline α) : List (Line α) :=
  shape.points.zipWith Line.mk shape.points.tail

/-- The sum of the lengths of the segments, before it is brought to the stored precision. -/
def exactLength (shape : Polyline α) : α :=
  shape.segments.foldl (fun sum line => sum + line.exactLength) 0

def length (shape : Polyline α) : Checked α (Distance α) := Distance.ofMeters shape.exactLength

def isClosed (shape : Polyline α) : Bool :=
  match shape.points with
  | [] | [_] => false
  | first :: rest => some first == rest.getLast?

/-- Repeats the first point at the end, if there are several points and it is not there already. -/
def closeLoop (shape : Polyline α) : Polyline α :=
  match shape.points with
  | [] | [_] => shape
  | first :: _ => if shape.isClosed then shape else shape.push first

def mapPoints (shape : Polyline α) (f : Point α → Checked α (Point α)) : Checked α (Polyline α) :=
  return ⟨← shape.points.mapM f⟩

def rotate (shape : Polyline α) (angle : Angle α) : Checked α (Polyline α) :=
  shape.mapPoints (·.rotate angle)

def translate (shape : Polyline α) (dx dy : α) : Checked α (Polyline α) :=
  shape.mapPoints (·.translate dx dy)

end Polyline

end RoadSketch
