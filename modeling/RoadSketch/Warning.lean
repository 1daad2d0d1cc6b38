import RoadSketch.Id
import RoadSketch.Number.Text

/-!
# Warnings

Remarks about requests that were carried out as doing nothing.
-/
namespace RoadSketch

inductive Warning (α : Type) where
  /-- An edge without lanes has no outline. -/
  | noLanes (edge : EdgeId)
  /-- A shape that is not exaggerated by a positive factor has no outline. -/
  | noExaggeration (factor : α)
  /-- A lane that ends at no junction has no connections. -/
  | deadEnd (lane : LaneId)
  deriving Repr

def Warning.message : Warning Float → String
  | .noLanes edge => "Not outlining " ++ toString edge ++ ", it has no lanes"
  | .noExaggeration factor =>
    "Not outlining a shape with exaggeration " ++ NumberLayout.plain.double factor
  | .deadEnd lane => toString lane ++ " doesn't end at a junction, so it has no connections"

/-- A result together with the warnings about it. -/
structure Noted (α β : Type) where
  value : β
  warnings : List (Warning α)
  deriving Repr

def Noted.silent {α β : Type} (value : β) : Noted α β := ⟨value, []⟩

end RoadSketch
