import RoadSketch.Dash.Line
import RoadSketch.Proofs.Checked

/-!
# What joins two dashed lines

Two dashed lines are joined where their outermost runs start and where they end. These four points,
as far as there are any, are all that matters of the lines: a line whose outermost run has no points
is joined like a line without runs.

Every run of a new line, along a shape or between two lines, comes from joining two points.
-/
namespace RoadSketch

variable {α : Type} [Scalar α]

/-- The run joins two points, with this offset. -/
def DashRun.Joins (offset : Int) (run : DashRun α) : Prop :=
  ∃ start finish step, DashRun.between start finish step offset = .ok run

namespace DashedLine

/-- A run for every segment. -/
theorem joins_of_ofSegments {settings : Settings α} {shape : Polyline α} {step : Distance α}
    {line : DashedLine α} (made : ofSegments settings shape step = .ok line) :
    line.width = settings.dashes.width ∧ ∀ run ∈ line.runs, run.Joins (-1) := by
  simp only [ofSegments, Checked.bind_eq_ok, Checked.pure_eq_ok] at made
  obtain ⟨runs, collected, rfl⟩ := made
  refine ⟨rfl, fun run member => ?_⟩
  obtain ⟨segment, _, made⟩ := Checked.exists_of_mem_mapM collected member
  exact ⟨_, _, _, made⟩

/-! ### Where lines are joined -/

/-- Where the first run starts. -/
def start? (line : DashedLine α) : Option (Point α) := line.runs.head?.bind (·.shape.first?)

/-- Where the last run ends. -/
def finish? (line : DashedLine α) : Option (Point α) := line.runs.getLast?.bind (·.shape.last?)

/-- A connector between two points, if it is wanted. -/
def wanted (join : Bool) (start finish : Option (Point α)) (step : Distance α) (offset : Int) :
    Checked α (List (DashRun α)) :=
  if join then connector? start finish step offset else pure []

theorem wanted_none (join : Bool) (finish : Option (Point α)) (step : Distance α) (offset : Int) :
    wanted join none finish step offset = .ok [] := by
  cases join <;> rfl

theorem wanted_none_right (join : Bool) (start : Option (Point α)) (step : Distance α)
    (offset : Int) : wanted join start none step offset = .ok [] := by
  cases join <;> cases start <;> rfl

theorem joins_of_wanted {join : Bool} {start finish : Option (Point α)} {step : Distance α}
    {offset : Int} {runs : List (DashRun α)}
    (made : wanted join start finish step offset = .ok runs) :
    ∀ run ∈ runs, run.Joins offset := by
  unfold wanted connector? at made
  split at made
  · split at made
    · simp only [Checked.bind_eq_ok, Checked.pure_eq_ok] at made
      obtain ⟨run, between, rfl⟩ := made
      intro other member
      rw [List.mem_singleton.mp member]
      exact ⟨_, _, _, between⟩
    · cases made
      simp
  · cases made
    simp

/-- Connectors depend on where the outermost runs start and end, and on nothing else. -/
theorem connectors_eq (settings : Settings α) (top bottom : DashedLine α)
    (joinStarts joinEnds : Bool) :
    connectors settings top joinStarts bottom joinEnds = do
      let step ← Distance.ofMeters settings.dashes.length
      let starts ← wanted joinStarts top.start? bottom.start? step (-1)
      let ends ← wanted joinEnds top.finish? bottom.finish? step 1
      return ⟨starts ++ ends, settings.dashes.width⟩ := by
  obtain ⟨above, _⟩ := top
  obtain ⟨below, _⟩ := bottom
  refine congrArg (Distance.ofMeters _ >>= ·) (funext fun step => ?_)
  -- Without runs there is nothing to join, which is what `wanted` makes of missing points.
  cases above with
  | nil =>
    simp only [start?, finish?, List.head?_nil, List.getLast?_nil, Option.bind_none, wanted_none]
    rfl
  | cons topFirst topRest =>
    cases below with
    | nil =>
      simp only [start?, finish?, List.head?_nil, List.getLast?_nil, Option.bind_none,
        wanted_none_right, List.getLast?_cons]
      rfl
    | cons bottomFirst bottomRest =>
      simp only [start?, finish?, List.head?_cons, List.getLast?_cons, Option.bind_some, wanted]
      split <;> split <;> rfl

/-- The starts are joined with the one offset and the ends with the other. -/
theorem joins_of_connectors {settings : Settings α} {top bottom line : DashedLine α}
    {joinStarts joinEnds : Bool}
    (joined : connectors settings top joinStarts bottom joinEnds = .ok line) :
    line.width = settings.dashes.width ∧ ∀ run ∈ line.runs, run.Joins (-1) ∨ run.Joins 1 := by
  simp only [connectors_eq, Checked.bind_eq_ok, Checked.pure_eq_ok] at joined
  obtain ⟨step, _, starts, startsMade, ends, endsMade, rfl⟩ := joined
  refine ⟨rfl, fun run member => ?_⟩
  rcases List.mem_append.mp member with early | late
  · exact .inl (joins_of_wanted startsMade run early)
  · exact .inr (joins_of_wanted endsMade run late)

end DashedLine

end RoadSketch
