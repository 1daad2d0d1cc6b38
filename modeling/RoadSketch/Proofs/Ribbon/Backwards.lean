import Mathlib.Tactic.Linarith
import Mathlib.Tactic.NormNum
import RoadSketch.Proofs.Checked
import RoadSketch.Proofs.Exact
import RoadSketch.Ribbon.Window

/-!
# Backwards windows

What becomes of a window whose end comes before its start. It is widened to a position step where
its end is moved behind its start. But its start may have been pulled back from the end of the path
before, past its end, and then the window keeps whatever length is left.

## Main result

`ofPositions_backwards`: exactly which backwards windows span at least one position step.
-/
namespace RoadSketch.Window

/-- The latest position that a window may start at. -/
noncomputable def latest (length : Distance Exact) : Distance Exact :=
  ⟨length.meters - Distance.positionStep.meters⟩

/-- Where a window starts that is to start at some position. -/
noncomputable def pulled (start length : Distance Exact) : Distance Exact :=
  if start > latest length then latest length else start

/-- Where a window ends that is to end at some position, unless it is widened. -/
noncomputable def cut (finish length : Distance Exact) : Distance Exact :=
  if finish > length then length else finish

/-- A window of one position step. -/
noncomputable def step (start : Distance Exact) : Window Exact :=
  ⟨start, ⟨start.meters + Distance.positionStep.meters⟩⟩

@[simp] theorem value_latest (length : Distance Exact) :
    (latest length).meters.value = length.meters.value - 1 / 10 := by
  simp [latest, Distance.positionStep]

theorem pulled_le_latest (start length : Distance Exact) :
    (pulled start length).meters.value ≤ length.meters.value - 1 / 10 := by
  rw [← value_latest]
  unfold pulled
  split
  next late => exact le_refl _
  next early => exact not_lt.mp early

theorem onGrid_pulled {start length : Distance Exact} (startGrid : start.OnGrid)
    (lengthGrid : length.OnGrid) : (pulled start length).OnGrid := by
  unfold pulled
  split
  · exact Exact.OnGrid.sub lengthGrid Distance.onGrid_positionStep
  · exact startGrid

/-- Between stored distances, fitting does not round. -/
theorem fit_eq_ok {start finish length : Distance Exact} (startGrid : start.OnGrid)
    (lengthGrid : length.OnGrid) :
    fit start finish length = .ok
      (if cut finish length ≤ pulled start length then step (pulled start length)
        else ⟨pulled start length, cut finish length⟩) := by
  have pulledGrid := onGrid_pulled startGrid lengthGrid
  have widened := pulledGrid.add_eq_ok Distance.onGrid_positionStep
  simp only [fit, lengthGrid.sub_eq_ok Distance.onGrid_positionStep, Checked.ok_bind]
  change (if cut finish length ≤ pulled start length then
      (pulled start length).add Distance.positionStep >>= fun finish =>
        .ok (Window.mk (pulled start length) finish)
    else .ok (Window.mk (pulled start length) (cut finish length))) = _
  rw [widened, Checked.ok_bind]
  split <;> rfl

/-- The window spans at least one position step. -/
def SpansStep (window : Window Exact) : Prop :=
  window.start.meters + Distance.positionStep.meters ≤ window.finish.meters

theorem spansStep_iff {window : Window Exact} :
    window.SpansStep ↔ window.start.meters.value + 1 / 10 ≤ window.finish.meters.value := by
  simp [SpansStep, Distance.positionStep]

theorem spansStep_step (start : Distance Exact) : (step start).SpansStep := le_refl (α := ℝ) _

/-! ### Main result -/

/-- The whole path spans a position step, or is widened to one. -/
theorem whole_spansStep {length : Distance Exact} (lengthGrid : length.OnGrid) :
    ∃ window, fit Distance.zero length length = .ok window ∧ window.SpansStep := by
  have zeroGrid : (Distance.zero : Distance Exact).OnGrid := ⟨0, by simp [Distance.zero]⟩
  refine ⟨_, fit_eq_ok zeroGrid lengthGrid, ?_⟩
  have uncut : cut length length = length := ite_self length
  have room := pulled_le_latest Distance.zero length
  split
  · exact spansStep_step _
  · rw [spansStep_iff, uncut]
    linarith

/-- A backwards window that starts on the path spans a position step iff its end is not within the
last position step of the path. -/
theorem fit_backwards {start finish length : Distance Exact} (startGrid : start.OnGrid)
    (lengthGrid : length.OnGrid) (backwards : finish < start) :
    ∃ window, fit start finish length = .ok window ∧
      (window.SpansStep ↔ finish ≤ latest length ∨ length ≤ finish) ∧
      (¬window.SpansStep → window = ⟨latest length, finish⟩) := by
  refine ⟨_, fit_eq_ok startGrid lengthGrid, ?_⟩
  simp only [Distance.lt_iff, Distance.le_iff, value_latest] at backwards ⊢
  have room := pulled_le_latest start length
  by_cases beyond : length.meters.value < finish.meters.value
  · -- The end is cut off at the end of the path, from which the start has been pulled back.
    have cutOff : cut finish length = length := if_pos beyond
    have spans : SpansStep (if (cut finish length).meters.value ≤ (pulled start length).meters.value
        then step (pulled start length) else ⟨pulled start length, cut finish length⟩) := by
      split
      · exact spansStep_step _
      · rw [spansStep_iff, cutOff]
        linarith
    exact ⟨iff_of_true spans (.inr beyond.le), fun short => absurd spans short⟩
  · have uncut : cut finish length = finish := if_neg beyond
    rw [uncut]
    by_cases late : length.meters.value - 1 / 10 < start.meters.value
    · -- The start is pulled back, maybe past the end.
      have back : pulled start length = latest length := if_pos (by simpa using late)
      rw [back, value_latest]
      split
      next behind =>
        exact ⟨iff_of_true (spansStep_step _) (.inl behind), fun short =>
          absurd (spansStep_step _) short⟩
      next ahead =>
        refine ⟨?_, fun _ => rfl⟩
        rw [spansStep_iff, value_latest]
        constructor
        · intro spans
          exact .inr (by linarith)
        · rintro (behind | reaches)
          · exact absurd behind ahead
          · linarith
    · -- The start stays ahead of the end, so the end is moved behind it.
      have stays : pulled start length = start := if_neg (by simpa using late)
      rw [stays, if_pos backwards.le]
      have behind : finish.meters.value ≤ length.meters.value - 1 / 10 := by linarith
      exact ⟨iff_of_true (spansStep_step _) (.inl behind), fun short =>
        absurd (spansStep_step _) short⟩

/-- Exactly which backwards windows span at least one position step: all but those that start on the
path and end within its last position step, from there on to before its end. Those are left with
what there is between the latest start and their end. -/
theorem ofPositions_backwards {start finish length : Distance Exact} (startGrid : start.OnGrid)
    (lengthGrid : length.OnGrid) (backwards : finish < start) :
    ∃ window, ofPositions start finish length = .ok window ∧
      (window.SpansStep ↔ start < .zero ∨ finish ≤ latest length ∨ length ≤ finish) ∧
      (¬window.SpansStep → window = ⟨latest length, finish⟩) := by
  by_cases negative : start < Distance.zero
  · obtain ⟨window, made, spans⟩ := whole_spansStep lengthGrid
    refine ⟨window, ?_, iff_of_true spans (.inl negative), fun short => absurd spans short⟩
    rw [ofPositions, if_pos negative, made]
  · rw [ofPositions, if_neg negative]
    obtain ⟨window, made, spans, short⟩ := fit_backwards startGrid lengthGrid backwards
    refine ⟨window, made, ?_, short⟩
    rw [spans]
    simp only [negative, false_or]

theorem ofPositions_backwards_of_middle :
    Distance.stored 30000 < Distance.stored 50000 ∧
    ∃ window, ofPositions (.stored 50000) (.stored 30000) (.stored 100000) = .ok window ∧
      window.SpansStep := by
  have backwards : Distance.stored 30000 < Distance.stored 50000 := by
    norm_num [Distance.stored]
  refine ⟨backwards, ?_⟩
  obtain ⟨window, made, spans, _⟩ := ofPositions_backwards (Distance.onGrid_stored _)
    (Distance.onGrid_stored 100000) backwards
  refine ⟨window, made, spans.mpr (.inr (.inl ?_))⟩
  norm_num [Distance.stored]

/-- On a path of 10 m, the window from 9.99 m back to 9.95 m is widened to 5 cm only. -/
theorem backwards_window_too_short :
    Distance.stored 99500 < Distance.stored 99900 ∧
    ∃ window, ofPositions (.stored 99900) (.stored 99500) (.stored 100000) = .ok window ∧
      ¬window.SpansStep := by
  have backwards : Distance.stored 99500 < Distance.stored 99900 := by
    norm_num [Distance.stored]
  have positive : ¬Distance.stored 99900 < Distance.zero := by
    norm_num [Distance.stored, Distance.zero]
  refine ⟨backwards, ?_⟩
  rw [ofPositions, if_neg positive]
  obtain ⟨window, made, spans, _⟩ := fit_backwards (Distance.onGrid_stored _)
    (Distance.onGrid_stored 100000) backwards
  refine ⟨window, made, ?_⟩
  rw [spans]
  norm_num [Distance.stored]

end RoadSketch.Window
