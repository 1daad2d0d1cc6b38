import RoadSketch.Color.Levels
import RoadSketch.Scalar

/-!
# Settings

How outlines, arrows and labels look, and on which side of the road vehicles drive.
-/
namespace RoadSketch

variable {α : Type} [Scalar α]

structure DashSettings (α : Type) where
  width : α
  /-- The greatest length of a dash. -/
  length : α
  firstInspected : Color
  secondInspected : Color
  firstFront : Color
  secondFront : Color
  deriving Repr

def DashSettings.standard : DashSettings α where
  width := 2 / 10
  length := 2
  firstInspected := Color.opaqueOfLevels 235 235 235
  secondInspected := Color.black
  firstFront := Color.opaqueOfLevels 0 0 255
  secondFront := Color.pureGreen

structure ArrowSettings (α : Type) where
  width : α
  length : α
  offset : α
  deriving Repr

def ArrowSettings.standard : ArrowSettings α := ⟨1, 1, 1 / 2⟩

structure Settings (α : Type) where
  dashes : DashSettings α
  arrows : ArrowSettings α
  /-- By how much outlines around lanes are wider than the lanes. -/
  laneWidthExaggeration : α
  /-- From which scale on points are labeled. -/
  pointLabelDetail : α
  deriving Repr

def Settings.standard : Settings α := ⟨.standard, .standard, 1, 10⟩

/-- The side of the road that vehicles drive on. -/
inductive DrivingSide where
  | right
  | left
  deriving DecidableEq, Repr

structure EditorOptions where
  drivingSide : DrivingSide
  deriving DecidableEq, Repr

def EditorOptions.standard : EditorOptions := ⟨.right⟩

end RoadSketch
