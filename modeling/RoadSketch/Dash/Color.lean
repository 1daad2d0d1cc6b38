import RoadSketch.Settings

/-!
# Colors of dashes

Outlines are drawn for different reasons, and most of them have a pair of colors between which
neighboring dashes alternate.
-/
namespace RoadSketch

variable {α : Type}

/-- Why something is outlined. -/
inductive OutlineKind where
  | inspect
  | front
  | green
  | magenta
  | remove
  | select
  deriving DecidableEq, Repr

namespace OutlineKind

def ofName? : String → Option OutlineKind
  | "inspect" => some .inspect
  | "front" => some .front
  | "green" => some .green
  | "magenta" => some .magenta
  | "remove" => some .remove
  | "select" => some .select
  | _ => none

def unknownName (name : String) : String := "unknown contour type " ++ name

/-- A darker variant of a color, for which the calculation has to stay in range. -/
def shade (color : Color) (inRange : (color.brighten? (-30)).isSome) : Color :=
  (color.brighten? (-30)).get inRange

/-- The pair of colors that a kind alternates between, if it has one. -/
def colors? (dashes : DashSettings α) : OutlineKind → Option (Color × Color)
  | .inspect => some (dashes.firstInspected, dashes.secondInspected)
  | .front => some (dashes.firstFront, dashes.secondFront)
  | .green => some (.pureGreen, shade .pureGreen (by decide +kernel))
  | .magenta => some (.magenta, shade .magenta (by decide +kernel))
  | .remove | .select => none

end OutlineKind

/-- Which of a pair of colors comes next. -/
structure Alternation where
  isFirst : Bool
  deriving DecidableEq, Repr

namespace Alternation

def start : Alternation := ⟨true⟩

def flip (state : Alternation) : Alternation := ⟨!state.isFirst⟩

/-- The next color of a kind. -/
def next (dashes : DashSettings α) (kind : OutlineKind) (state : Alternation) :
    Color × Alternation :=
  match kind.colors? dashes with
  | some (first, second) => (if state.isFirst then first else second, state.flip)
  -- What is black does not alternate, so it leaves the state to what does.
  | none => (.black, state)

/-- What is asked of an alternation while outlines are drawn. -/
inductive Call where
  | next (kind : OutlineKind)
  | flip
  | restart
  deriving DecidableEq, Repr

/-- Makes a call. Only one for the next color is answered. -/
def make (dashes : DashSettings α) (state : Alternation) : Call → Option Color × Alternation
  | .next kind =>
    let (color, after) := state.next dashes kind
    (some color, after)
  | .flip => (none, state.flip)
  | .restart => (none, start)

/-- The answers to calls that are made one after another, and the state after them. -/
def makeAll (dashes : DashSettings α) (state : Alternation) :
    List Call → List (Option Color) × Alternation
  | [] => ([], state)
  | call :: rest =>
    let (answer, after) := state.make dashes call
    let (answers, last) := after.makeAll dashes rest
    (answer :: answers, last)

end Alternation

end RoadSketch
