import RoadSketch.Proofs.Ribbon.Backwards

/-!
# Ends of paths

Where the ends of a path are moved to on their lanes. A position is first moved one position step
away from the start of its lane, and then one step away from its end. On a lane that has no room for
both steps the second move undoes the first one, and every position is moved to the same place: the
one that lies a step before the end of the lane, even if that is before its start.

## Main results

- `adjustPathEnds_within_iff`: an end of a path comes to lie within its lane exactly if the lane is
  longer than one position step.
- `adjustPathEnds_ordered`: on one lane the end never comes before the start, and ends that differ
  are not moved again.
-/
namespace RoadSketch

namespace Distance

/-- A position that is on a lane of some length, and at none of its ends. -/
structure LiesWithin (position length : Distance Exact) : Prop where
  start : .zero < position
  finish : position < length

theorem eq_of_value {a b : Distance Exact} (same : a.meters.value = b.meters.value) : a = b :=
  congrArg Distance.mk (Exact.ext same)

theorem value_raise (position least : Distance Exact) :
    (if position < least then least else position).meters.value =
      max position.meters.value least.meters.value := by
  rw [max_def_lt]
  exact apply_ite (fun d : Distance Exact => d.meters.value) (position < least) _ _

theorem value_lower (position most : Distance Exact) :
    (if position > most then most else position).meters.value =
      min position.meters.value most.meters.value := by
  rw [min_comm, min_def_lt]
  exact apply_ite (fun d : Distance Exact => d.meters.value) (position > most) _ _

end Distance

/-! ### One position -/

/-- Where a position on a lane of some length is moved to. -/
noncomputable def movedInside (length position : Distance Exact) : Distance Exact :=
  ⟨⟨min (max position.meters.value (1 / 10)) (length.meters.value - 1 / 10)⟩⟩

section
variable {length position other : Distance Exact}

/-- The two comparisons, one after the other, are a maximum and a minimum. -/
theorem keepInside_eq_ok (lengthGrid : length.OnGrid) :
    keepInside position length = .ok (movedInside length position) := by
  unfold keepInside
  extract_lets raised
  rw [lengthGrid.sub_eq_ok Distance.onGrid_positionStep, Checked.ok_bind]
  refine congrArg Except.ok (Distance.eq_of_value ?_)
  rw [Distance.value_lower, Distance.value_raise]
  simp [movedInside]

/-- Moving positions keeps their order. -/
theorem movedInside_mono (before : position ≤ other) :
    movedInside length position ≤ movedInside length other :=
  min_le_min_right (length.meters.value - 1 / 10) (max_le_max_right (1 / 10 : ℝ) before)

/-- A position that was moved stays where it is. -/
theorem movedInside_movedInside (length position : Distance Exact) :
    movedInside length (movedInside length position) = movedInside length position := by
  refine Distance.eq_of_value ?_
  simp only [movedInside]
  -- With room for both steps the bounds are in order, and without it only the upper one is left.
  rcases le_total (1 / 10) (length.meters.value - 1 / 10) with room | short
  · rw [max_eq_left (le_min (le_max_right _ _) room), min_eq_left (min_le_right _ _)]
  · rw [min_eq_right (short.trans (le_max_right _ _)), min_eq_right (short.trans (le_max_right _ _))]

/-- Within a lane there is a place for positions exactly if it is longer than one position step. -/
theorem movedInside_within_iff :
    (movedInside length position).LiesWithin length ↔ .positionStep < length := by
  -- The lower bound is behind the start of the lane anyway, so the upper one decides.
  have away : (0 : ℝ) < max position.meters.value (1 / 10) := lt_max_of_lt_right (by norm_num)
  have last : (movedInside length position).meters.value ≤ length.meters.value - 1 / 10 :=
    min_le_right _ _
  constructor
  · rintro ⟨start, -⟩
    simp only [Distance.lt_iff, Distance.value_zero, Distance.value_positionStep] at start ⊢
    linarith
  · intro long
    simp only [Distance.lt_iff, Distance.value_positionStep] at long
    constructor
    · rw [Distance.lt_iff, Distance.value_zero]
      exact lt_min away (by linarith)
    · rw [Distance.lt_iff]
      linarith

/-- On a lane without room for two position steps, all positions are moved to the same place. -/
theorem movedInside_of_short (short : Window.latest length ≤ .positionStep) :
    movedInside length position = Window.latest length := by
  rw [Distance.le_iff, Window.value_latest, Distance.value_positionStep] at short
  refine Distance.eq_of_value ?_
  rw [Window.value_latest]
  exact min_eq_right (le_max_of_le_right short)

end

/-! ### Both ends of a path -/

/-- Where a path is to end: on the lane that it starts on, behind its start. -/
noncomputable def pastStart (sameLane : Bool) (start finish : Distance Exact) : Distance Exact :=
  if sameLane && decide (start ≥ finish) then
    ⟨Scalar.trim (start.meters + Distance.positionStep.meters)⟩
  else finish

section
variable {startLength finishLength : Distance Exact}

theorem start_le_pastStart (start finish : Distance Exact) : start ≤ pastStart true start finish := by
  unfold pastStart
  split
  next =>
    -- Rounding takes off less than the position step that is added.
    have rounded := (abs_le.mp (Exact.abs_trim_sub_le (start.meters + Distance.positionStep.meters))).1
    rw [Exact.value_add, Distance.value_positionStep] at rounded
    rw [Distance.le_iff]
    linarith
  next ahead =>
    have later : start < finish := by simpa using ahead
    exact le_of_lt (α := ℝ) later

theorem pastStart_of_lt {start finish : Distance Exact} (ahead : start < finish) (sameLane : Bool) :
    pastStart sameLane start finish = finish := by
  have later : ¬start ≥ finish := Distance.not_le_iff.mpr ahead
  simp [pastStart, later]

theorem adjustPathEnds_eq_ok (startGrid : startLength.OnGrid) (finishGrid : finishLength.OnGrid)
    (start finish : Distance Exact) (sameLane : Bool) :
    adjustPathEnds (some start) (some startLength) (some finish) (some finishLength) sameLane =
      .ok (some (movedInside startLength start),
        some (movedInside finishLength (pastStart sameLane start finish))) := by
  have keep (finish : Distance Exact) :
      (keepInside? (some start) (some startLength) >>= fun first =>
        keepInside? (some finish) (some finishLength) >>= fun last => .ok (first, last)) =
      Except.ok (some (movedInside startLength start), some (movedInside finishLength finish)) := by
    simp only [keepInside?, keepInside_eq_ok startGrid, keepInside_eq_ok finishGrid]
    rfl
  unfold adjustPathEnds pastStart
  simp only [Option.isSome_some, Bool.and_true]
  split
  next behind =>
    rw [Distance.add_eq_ok]
    exact keep _
  next ahead => exact keep _

/-! ### Main results -/

/-- Exactly on which lanes the ends of a path come to lie within their lanes: on those that are longer
than one position step. On lanes without room for two steps they come to lie one step before the end
of the lane, even if that is before its start. -/
theorem adjustPathEnds_within_iff (startGrid : startLength.OnGrid) (finishGrid : finishLength.OnGrid)
    (start finish : Distance Exact) (sameLane : Bool) :
    ∃ first last,
      adjustPathEnds (some start) (some startLength) (some finish) (some finishLength) sameLane =
        .ok (some first, some last) ∧
      (first.LiesWithin startLength ↔ .positionStep < startLength) ∧
      (last.LiesWithin finishLength ↔ .positionStep < finishLength) ∧
      (Window.latest startLength ≤ .positionStep → first = Window.latest startLength) ∧
      (Window.latest finishLength ≤ .positionStep → last = Window.latest finishLength) :=
  ⟨_, _, adjustPathEnds_eq_ok startGrid finishGrid start finish sameLane,
    movedInside_within_iff, movedInside_within_iff, movedInside_of_short, movedInside_of_short⟩

/-- A lane that is a tenth of a millimeter longer than a position step, and another one that the path
is to end beyond. -/
theorem adjustPathEnds_within_iff_of_narrow :
    (Distance.stored 1001).OnGrid ∧ (Distance.stored 100000).OnGrid ∧
    ∃ first last,
      adjustPathEnds (some (.stored 500)) (some (.stored 1001)) (some (.stored 300000))
        (some (.stored 100000)) false = .ok (some first, some last) ∧
      first.LiesWithin (.stored 1001) ∧ last.LiesWithin (.stored 100000) := by
  have startGrid := Distance.onGrid_stored 1001
  have finishGrid := Distance.onGrid_stored 100000
  refine ⟨startGrid, finishGrid, ?_⟩
  obtain ⟨first, last, moved, start, finish, _, _⟩ :=
    adjustPathEnds_within_iff startGrid finishGrid (.stored 500) (.stored 300000) false
  refine ⟨first, last, moved, start.mpr ?_, finish.mpr ?_⟩
  · norm_num [Distance.stored]
  · norm_num [Distance.stored]

/-- On a lane of 5 cm, a path that starts 2 cm behind the start of the lane is moved to 5 cm before
it. -/
theorem adjustPathEnds_leaves_lane :
    .zero < Distance.stored 500 ∧
    ∃ first last, adjustPathEnds (some (.stored 200)) (some (.stored 500)) (some (.stored 300000))
        (some (.stored 1000000)) false = .ok (some first, some last) ∧
      first = .stored (-500) ∧ ¬first.LiesWithin (.stored 500) := by
  have lane : .zero < Distance.stored 500 := by
    norm_num [Distance.stored]
  have moved : movedInside (.stored 500) (.stored 200) = .stored (-500) := by
    refine Distance.eq_of_value ?_
    norm_num [movedInside, Distance.stored]
  refine ⟨lane, _, _, adjustPathEnds_eq_ok (Distance.onGrid_stored 500)
    (Distance.onGrid_stored 1000000) (.stored 200) (.stored 300000) false, moved, ?_⟩
  rw [movedInside_within_iff]
  norm_num [Distance.stored]

/-- On one lane, of any length, the end of a path never comes before its start. If the two differ then
they stay where they are when they are moved again. -/
theorem adjustPathEnds_ordered {length : Distance Exact} (lengthGrid : length.OnGrid)
    (start finish : Distance Exact) :
    ∃ first last,
      adjustPathEnds (some start) (some length) (some finish) (some length) true =
        .ok (some first, some last) ∧
      first ≤ last ∧
      (first < last →
        adjustPathEnds (some first) (some length) (some last) (some length) true =
          .ok (some first, some last)) := by
  refine ⟨_, _, adjustPathEnds_eq_ok lengthGrid lengthGrid start finish true,
    movedInside_mono (start_le_pastStart start finish), fun ahead => ?_⟩
  rw [adjustPathEnds_eq_ok lengthGrid lengthGrid, pastStart_of_lt ahead, movedInside_movedInside,
    movedInside_movedInside]

/-- A path that is to run backwards over a lane of 1 m, from 0.5 m to 0.3 m. -/
theorem adjustPathEnds_ordered_of_backwards :
    (Distance.stored 10000).OnGrid ∧
    ∃ first last,
      adjustPathEnds (some (.stored 5000)) (some (.stored 10000)) (some (.stored 3000))
        (some (.stored 10000)) true = .ok (some first, some last) ∧
      first < last ∧
      adjustPathEnds (some first) (some (.stored 10000)) (some last) (some (.stored 10000)) true =
        .ok (some first, some last) := by
  have lengthGrid := Distance.onGrid_stored 10000
  obtain ⟨first, last, moved, _, kept⟩ :=
    adjustPathEnds_ordered lengthGrid (.stored 5000) (.stored 3000)
  have pushed : pastStart true (.stored 5000) (.stored 3000) = .stored 6000 := by
    have stored := Exact.trim_eq_iff.mpr
      (Exact.OnGrid.add (Distance.onGrid_stored 5000) Distance.onGrid_positionStep)
    refine Distance.eq_of_value ?_
    rw [pastStart, if_pos (by norm_num [Distance.stored]), stored]
    norm_num [Distance.stored]
  have ahead : first < last := by
    rw [adjustPathEnds_eq_ok lengthGrid lengthGrid, pushed] at moved
    cases moved
    norm_num [movedInside, Distance.stored]
  exact ⟨lengthGrid, first, last, moved, ahead, kept ahead⟩

end

end RoadSketch
