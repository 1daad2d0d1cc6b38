import RoadSketch.Proofs.Polyline.Ends

/-!
# Evenly spaced points

A polyline is resampled at equal distances along it, the first at its start and the last at its end.
The straight distance between two neighbours is no more than the distance along the polyline, which
is at most the step that was asked for. Only bringing both points to the stored precision can add to
it.

## Main result

`resample_evenly`: how many points there are, where they start and end, and how far apart they are,
for every length that is worth resampling.
-/
namespace RoadSketch.Polyline

variable {p : Point Exact} {rest : List (Point Exact)} {count : Nat}

/-- The end of the `i`-th of some pieces of equal length, on the way from a point through others. -/
noncomputable def sample (p : Point Exact) (rest : List (Point Exact)) (count i : Nat) :
    Point Exact :=
  .nearestTo (travel p rest ((exactLength ⟨p :: rest⟩).value * i / count))

/-- The ends of all pieces. -/
noncomputable def samples (p : Point Exact) (rest : List (Point Exact)) (count : Nat) :
    List (Point Exact) := (List.range (count + 1)).map (sample p rest count)

theorem length_samples (p : Point Exact) (rest : List (Point Exact)) (count : Nat) :
    (samples p rest count).length = count + 1 := by
  rw [samples, List.length_map, List.length_range]

theorem eq_sample_of_getElem? {i : Nat} {q : Point Exact}
    (here : (samples p rest count)[i]? = some q) : q = sample p rest count i := by
  obtain ⟨_, rfl⟩ := List.getElem?_eq_some_iff.mp here
  simp [samples]

theorem sample_zero (grid : ∀ q ∈ p :: rest, q.OnGrid) (count : Nat) :
    sample p rest count 0 = p := by
  have start : (exactLength ⟨p :: rest⟩).value * (0 : Nat) / count = (0 : Exact).value := by simp
  rw [sample, start]
  exact nearestTo_travel_of_nonpos grid (by simp)

theorem sample_count (grid : ∀ q ∈ p :: rest, q.OnGrid) (positive : 0 < count) :
    sample p rest count count = (p :: rest).getLast (List.cons_ne_nil p rest) := by
  rw [sample, mul_div_cancel_right₀ _ (Nat.cast_ne_zero.mpr positive.ne')]
  apply nearestTo_travel_of_end grid
  exact lt_add_of_pos_right _ (by norm_num)

theorem head?_samples (grid : ∀ q ∈ p :: rest, q.OnGrid) (count : Nat) :
    (samples p rest count).head? = some p := by
  rw [samples, List.head?_map, List.head?_range, if_neg count.succ_ne_zero, Option.map_some,
    sample_zero grid]

theorem getLast?_samples (grid : ∀ q ∈ p :: rest, q.OnGrid) (positive : 0 < count) :
    (samples p rest count).getLast? = (p :: rest).getLast? := by
  rw [samples, List.getLast?_map, List.getLast?_range, if_neg count.succ_ne_zero, Option.map_some,
    Nat.add_sub_cancel, sample_count grid positive, List.getLast?_eq_some_getLast]

/-- Neighbours are no further apart than the length of a piece, and what rounding both adds. -/
theorem exactLength_le_of_mem_segments {line : Line Exact}
    (member : line ∈ segments ⟨samples p rest count⟩) : line.exactLength.value ≤
      (exactLength ⟨p :: rest⟩).value / count + 2 * Point.slack := by
  obtain ⟨i, starts, finishes⟩ := getElem?_of_mem_segments member
  have start := eq_sample_of_getElem? starts
  have finish := eq_sample_of_getElem? finishes
  rw [sample] at start finish
  have step : (exactLength ⟨p :: rest⟩).value * (i + 1 : Nat) / count =
      (exactLength ⟨p :: rest⟩).value * i / count + (exactLength ⟨p :: rest⟩).value / count := by
    push_cast
    ring
  rw [step] at finish
  have piece : 0 ≤ (exactLength ⟨p :: rest⟩).value / count :=
    div_nonneg (exactLength_nonneg _) count.cast_nonneg
  generalize (exactLength ⟨p :: rest⟩).value * i / count = here at start finish
  generalize (exactLength ⟨p :: rest⟩).value / count = gap at finish piece ⊢
  have moved := dist_travel_le_sub p rest (le_add_of_nonneg_right piece : here ≤ here + gap)
  have left := Point.dist_nearestTo_le (travel p rest here)
  have right := Point.dist_nearestTo_le (travel p rest (here + gap))
  rw [← start] at left
  rw [← finish, dist_comm] at right
  have triangle := dist_triangle4 line.start.place (travel p rest here)
    (travel p rest (here + gap)) line.finish.place
  rw [Line.value_exactLength]
  linarith

/-! ### Resampling -/

/-- As many pieces as it takes to have none longer than the step. -/
theorem pieces_eq {length step : Exact} (positive : 0 < length.value) (forward : 0 < step.value) :
    max 1 (Scalar.ceilNat (length / step)) = ⌈length.value / step.value⌉₊ :=
  max_eq_right (Nat.ceil_pos.mpr (div_pos positive forward))

theorem exists_locate?_sample (grid : ∀ q ∈ p :: rest, q.OnGrid) (count i : Nat) :
    ∃ line?, locate? ⟨p :: rest⟩ (exactLength ⟨p :: rest⟩ * Scalar.ofNat i / Scalar.ofNat count) =
      .ok (some ⟨sample p rest count i, line?⟩) := by
  obtain ⟨line?, _, found⟩ := exists_locate?_of_onGrid grid
    (exactLength ⟨p :: rest⟩ * Scalar.ofNat i / Scalar.ofNat count)
  exact ⟨line?, found⟩

/-- What is long enough is resampled at the ends of its pieces. The last point is there already. -/
theorem resample_eq_ok (grid : ∀ q ∈ p :: rest, q.OnGrid) {step : Distance Exact}
    (forward : 0 < step.meters.value) (long : 1 / 10000 ≤ (exactLength ⟨p :: rest⟩).value)
    (keepEnd : Bool) : resample ⟨p :: rest⟩ step keepEnd =
      .ok ⟨samples p rest ⌈(exactLength ⟨p :: rest⟩).value / step.meters.value⌉₊⟩ := by
  have positive : 0 < (exactLength ⟨p :: rest⟩).value := by linarith
  have ahead : ¬step ≤ .zero := by simpa using forward
  have enough : ¬exactLength ⟨p :: rest⟩ < (Distance.tolerance : Distance Exact).meters := by
    simpa [Distance.tolerance] using long
  have several := Nat.ceil_pos.mpr (div_pos positive forward)
  rw [resample, if_neg ahead]
  simp only [if_neg enough, pieces_eq positive forward]
  generalize ⌈(exactLength ⟨p :: rest⟩).value / step.meters.value⌉₊ = count at several ⊢
  choose line found using exists_locate?_sample grid count
  rw [Checked.mapM_eq_map fun i _ => found i, Checked.ok_bind]
  have points : ((List.range (count + 1)).map fun i =>
      some (Location.mk (sample p rest count i) (line i))).filterMap (·.map (·.point)) =
        samples p rest count := by
    rw [List.filterMap_map]
    exact congrFun (List.filterMap_eq_map (f := sample p rest count)) _
  have last := List.getLast?_eq_some_getLast (List.cons_ne_nil p rest)
  have kept : last? ⟨samples p rest count⟩ =
      some ((p :: rest).getLast (List.cons_ne_nil p rest)) := by
    rw [last?, getLast?_samples grid several, last]
  rw [points]
  simp only [last?, last] at kept ⊢
  simp [kept]

theorem exactLength_pair (p q : Point Exact) :
    exactLength ⟨[p, q]⟩ = (Line.mk p q).exactLength := by
  ext
  simp [exactLength, segments]

/-- Two points that differ are far enough apart to be resampled. -/
theorem resample_pair {p q : Point Exact} (grid : (Line.mk p q).OnGrid) (differ : p ≠ q)
    {step : Distance Exact} (forward : 0 < step.meters.value) (keepEnd : Bool) :
    resample ⟨[p, q]⟩ step keepEnd =
      .ok ⟨samples p [q] ⌈(Line.mk p q).exactLength.value / step.meters.value⌉₊⟩ := by
  have ends : ∀ r ∈ [p, q], r.OnGrid := by
    simpa using And.intro grid.start grid.finish
  have long := grid.le_exactLength differ
  rw [← exactLength_pair] at long ⊢
  exact resample_eq_ok ends forward long keepEnd

/-- What is long enough is resampled from its first to its last point, and neighbours are no further
apart than the step, up to the rounding of two points. Of what is too short, or for no step at all,
there are no samples. -/
theorem resample_evenly {shape : Polyline Exact} (grid : ∀ q ∈ shape.points, q.OnGrid)
    (step : Distance Exact) (keepEnd : Bool) :
    (.zero < step → 1 / 10000 ≤ shape.exactLength.value →
      ∃ resampled, shape.resample step keepEnd = .ok resampled ∧
        resampled.points.length = ⌈shape.exactLength.value / step.meters.value⌉₊ + 1 ∧
        resampled.first? = shape.first? ∧ resampled.last? = shape.last? ∧
        ∀ line ∈ resampled.segments,
          line.exactLength.value ≤ step.meters.value + 2 / 10000) ∧
    (shape.exactLength.value < 1 / 10000 ∨ step ≤ .zero →
      shape.resample step keepEnd = .ok empty) := by
  constructor
  · intro forward long
    rw [Distance.lt_iff, Distance.value_zero] at forward
    obtain ⟨points⟩ := shape
    cases points with
    | nil =>
      -- Without points there is no length.
      have nothing : (exactLength (⟨[]⟩ : Polyline Exact)).value = 0 := Nat.cast_zero
      linarith
    | cons p rest =>
      have positive : 0 < (exactLength ⟨p :: rest⟩).value := by linarith
      have several := Nat.ceil_pos.mpr (div_pos positive forward)
      refine ⟨_, resample_eq_ok grid forward long keepEnd, length_samples p rest _,
        head?_samples grid _, getLast?_samples grid several, ?_⟩
      intro line member
      have piece : (exactLength ⟨p :: rest⟩).value /
          ⌈(exactLength ⟨p :: rest⟩).value / step.meters.value⌉₊ ≤ step.meters.value := by
        rw [div_le_iff₀ (Nat.cast_pos.mpr several), ← div_le_iff₀' forward]
        exact Nat.le_ceil _
      have apart := exactLength_le_of_mem_segments member
      have rounding := Point.slack_le
      linarith
  · intro short
    rw [resample]
    split
    next => rfl
    next ahead =>
      have little := short.resolve_right ahead
      have threshold : shape.exactLength < (Distance.tolerance : Distance Exact).meters := by
        simpa [Distance.tolerance] using little
      exact if_pos threshold

/-- A diagonal of about 1.4142 meters, in steps of half a meter. -/
theorem resample_evenly_of_doubledDiagonal :
    (∀ q ∈ doubledDiagonal.points, q.OnGrid) ∧
    (.zero : Distance Exact) < .stored 5000 ∧ 1 / 10000 ≤ doubledDiagonal.exactLength.value ∧
    ∃ resampled, doubledDiagonal.resample (.stored 5000) false = .ok resampled ∧
      resampled.points.length = 4 ∧ resampled.first? = some ⟨0, 0⟩ ∧
      resampled.last? = some ⟨1, 1⟩ ∧
      (∀ line ∈ resampled.segments, line.exactLength.value ≤ 5002 / 10000) ∧
      doubledDiagonal.resample .zero true = .ok empty := by
  have grid := doubledDiagonal_stored.grid
  have above := Real.lt_sqrt_of_sq_lt (show (1 : ℝ) ^ 2 < 2 by norm_num)
  have below := Real.sqrt_two_lt_three_halves
  have forward : (.zero : Distance Exact) < .stored 5000 := by
    simp [Distance.stored]
  have long : 1 / 10000 ≤ doubledDiagonal.exactLength.value := by
    rw [exactLength_doubledDiagonal]
    linarith
  have count : ⌈doubledDiagonal.exactLength.value / (Distance.stored 5000).meters.value⌉₊ = 3 := by
    rw [exactLength_doubledDiagonal, Nat.ceil_eq_iff (by norm_num)]
    simp only [Distance.stored]
    constructor
    · norm_num
      linarith
    · norm_num
      linarith
  obtain ⟨resampled, made, length, first, last, apart⟩ :=
    (resample_evenly grid (.stored 5000) false).1 forward long
  refine ⟨grid, forward, long, resampled, made, ?_, first, last, fun line member => ?_, ?_⟩
  · rw [length, count]
  · refine (apart line member).trans_eq ?_
    simp only [Distance.stored]
    norm_num
  · exact (resample_evenly grid .zero true).2 (.inr (Distance.le_iff.mpr le_rfl))

end RoadSketch.Polyline
