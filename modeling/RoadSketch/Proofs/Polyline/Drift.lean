import RoadSketch.Proofs.Polyline.Nearest
import RoadSketch.Proofs.Polyline.Travel
import RoadSketch.Proofs.Segments

/-!
# Nearest positions drift

The search for the nearest position adds up stored lengths of segments, and positions are found by
their exact lengths. So a nearest position is off by what bringing the lengths of the segments to
the stored precision has changed so far. On short polylines this is less than a millimeter, and
there is no bound for all of them.

## Main results

* `nearestOffset_vertex`: how far from a vertex the nearest position to it leads.
* `nearestOffset_diagonal_drifts`: on a straight polyline of equal segments it leads further from
  the end the more segments there are.
-/
namespace RoadSketch

theorem Exact.totalOn (among : Exact → Prop) : Scalar.TotalOn among :=
  ⟨fun _ _ _ _ => lt_asymm (α := ℝ), fun _ _ _ _ _ _ below reaches =>
    lt_of_lt_of_le (α := ℝ) below (not_lt.mp reaches)⟩

namespace Line

theorem hasLength_iff {line : Line Exact} :
    line.HasLength ↔ line.storedLength.meters.value ≠ 0 := by
  have zero_iff : line.storedLength = .zero ↔ line.storedLength.meters.value = 0 := by
    constructor
    · intro zero
      rw [zero, Distance.value_zero]
    · intro zero
      exact congrArg Distance.mk (Exact.ext (zero.trans Distance.value_zero.symm))
  rw [HasLength, length_eq_ok, ne_eq, ← zero_iff]
  simp

theorem HasLength.storedLength_pos {line : Line Exact} (long : line.HasLength) :
    0 < line.storedLength.meters.value :=
  lt_of_le_of_ne line.storedLength_nonneg (hasLength_iff.mp long).symm

theorem HasLength.exactLength_pos {line : Line Exact} (long : line.HasLength) :
    0 < line.exactLength.value := by
  have atLeast := line.onGrid_storedLength.le_abs (hasLength_iff.mp long)
  rw [abs_of_nonneg line.storedLength_nonneg] at atLeast
  linarith [(abs_le.mp line.abs_storedLength_sub_le).2]

end Line

namespace Polyline

/-- The sum of the stored lengths of segments. -/
noncomputable def storedTotal (lines : List (Line Exact)) : ℝ :=
  (lines.map fun line => line.storedLength.meters.value).sum

/-- By how much bringing them to the stored precision changes the lengths of segments, in all. -/
noncomputable def drift (lines : List (Line Exact)) : ℝ :=
  (lines.map fun line => |line.storedLength.meters.value - line.exactLength.value|).sum

/-! ### The search over exact numbers -/

theorem exists_step (p : Point Exact) (search : NearestSearch Exact) (line : Line Exact) :
    ∃ next, NearestSearch.step p search line = .ok next := by
  obtain ⟨best, seen⟩ := search
  simp only [NearestSearch.step, Line.length_eq_ok, Line.nearestOffset_eq_ok, Line.pointAt_eq_ok,
    Line.pointAtShare_eq_ok, Distance.add_eq_ok, Checked.ok_bind]
  split
  · exact ⟨_, rfl⟩
  · cases best with
    | none => exact ⟨_, rfl⟩
    | some best =>
      dsimp only
      split <;> exact ⟨_, rfl⟩

theorem exists_nearestOffset (shape : Polyline Exact) (p : Point Exact) :
    ∃ offset, shape.nearestOffset p = .ok offset := by
  obtain ⟨search, ran⟩ :=
    Checked.exists_foldlM shape.segments ⟨none, Distance.zero⟩ (exists_step p)
  rw [nearestOffset, ran]
  exact ⟨_, rfl⟩

/-- Stored lengths are added up without rounding. -/
theorem covered_eq_ok (lines : List (Line Exact)) :
    ∃ seen, covered lines = .ok seen ∧ seen.OnGrid ∧ seen.meters.value = storedTotal lines := by
  suffices general : ∀ start : Distance Exact, start.OnGrid →
      ∃ seen, lines.foldlM pass start = .ok seen ∧ seen.OnGrid ∧
        seen.meters.value = start.meters.value + storedTotal lines by
    simpa [covered] using general .zero Exact.onGrid_zero
  induction lines with
  | nil => exact fun start grid => ⟨start, rfl, grid, by simp [storedTotal]⟩
  | cons line rest ih =>
    intro start grid
    have passed : ∃ next, pass start line = .ok next ∧ next.OnGrid ∧
        next.meters.value = start.meters.value + line.storedLength.meters.value := by
      rw [pass, line.length_eq_ok, Checked.ok_bind]
      split
      next zero =>
        refine ⟨start, rfl, grid, ?_⟩
        rw [eq_of_beq zero, Distance.value_zero, add_zero]
      next =>
        exact ⟨_, grid.add_eq_ok line.onGrid_storedLength,
          Exact.OnGrid.add grid line.onGrid_storedLength, rfl⟩
    obtain ⟨next, made, nextGrid, sum⟩ := passed
    obtain ⟨seen, ran, seenGrid, total⟩ := ih next nextGrid
    refine ⟨seen, by rw [List.foldlM_cons, made, Checked.ok_bind, ran], seenGrid, ?_⟩
    rw [total, sum, storedTotal, storedTotal, List.map_cons, List.sum_cons, add_assoc]

/-! ### Stored and exact lengths -/

theorem storedTotal_nonneg (lines : List (Line Exact)) : 0 ≤ storedTotal lines := by
  apply List.sum_nonneg
  intro length member
  obtain ⟨line, _, rfl⟩ := List.mem_map.mp member
  exact line.storedLength_nonneg

theorem drift_nonneg (lines : List (Line Exact)) : 0 ≤ drift lines := by
  apply List.sum_nonneg
  intro change member
  obtain ⟨line, _, rfl⟩ := List.mem_map.mp member
  exact abs_nonneg _

theorem abs_storedTotal_sub_le (lines : List (Line Exact)) :
    |storedTotal lines - exactTotal lines| ≤ drift lines := by
  induction lines with
  | nil => simp [storedTotal, exactTotal, drift]
  | cons line rest ih =>
    simp only [storedTotal, exactTotal, drift, List.map_cons, List.sum_cons] at ih ⊢
    rw [add_sub_add_comm]
    exact (abs_add_le _ _).trans (add_le_add_right ih _)

/-- Every length is changed by half a ten-thousandth at most. -/
theorem drift_le (lines : List (Line Exact)) : drift lines ≤ lines.length / 20000 := by
  have each : ∀ change ∈ lines.map fun line =>
      |line.storedLength.meters.value - line.exactLength.value|, change ≤ 1 / 20000 := by
    intro change member
    obtain ⟨line, _, rfl⟩ := List.mem_map.mp member
    exact line.abs_storedLength_sub_le
  have sum := List.sum_le_card_nsmul _ _ each
  rw [List.length_map, nsmul_eq_mul, mul_one_div] at sum
  exact sum

/-- Part of the way along a segment, stored lengths add up to no more than on the whole way. -/
theorem storedTotal_part_le (before after : List (Line Exact)) (line : Line Exact) {share : ℝ}
    (most : share ≤ 1) : storedTotal before + share * line.storedLength.meters.value ≤
      storedTotal (before ++ line :: after) := by
  have part := mul_le_of_le_one_left line.storedLength_nonneg most
  have others := storedTotal_nonneg after
  simp only [storedTotal, List.map_append, List.map_cons, List.sum_append,
    List.sum_cons] at others ⊢
  linarith

/-- Part of the way along a segment, the sums of stored and of exact lengths differ by no more than
the drift of the whole way. -/
theorem abs_part_sub_le (before after : List (Line Exact)) (line : Line Exact) {share : ℝ}
    (least : 0 ≤ share) (most : share ≤ 1) :
    |storedTotal before + share * line.storedLength.meters.value -
        (exactTotal before + share * line.exactLength.value)| ≤
      drift (before ++ line :: after) := by
  have part : |share * (line.storedLength.meters.value - line.exactLength.value)| ≤
      |line.storedLength.meters.value - line.exactLength.value| := by
    rw [abs_mul, abs_of_nonneg least]
    exact mul_le_of_le_one_left (abs_nonneg _) most
  have triangle := abs_add_le (storedTotal before - exactTotal before)
    (share * (line.storedLength.meters.value - line.exactLength.value))
  have earlier := abs_storedTotal_sub_le before
  have later := drift_nonneg after
  rw [add_sub_add_comm, ← mul_sub]
  simp only [drift, List.map_append, List.map_cons, List.sum_append,
    List.sum_cons] at earlier later ⊢
  linarith

/-- Adding up stored lengths may go beyond the stored length of the whole. -/
theorem storedTotal_le (shape : Polyline Exact) :
    storedTotal shape.segments ≤
      (Scalar.trim shape.exactLength).value + drift shape.segments + 1 / 20000 := by
  have sums := (abs_le.mp (abs_storedTotal_sub_le shape.segments)).2
  have rounded := (abs_le.mp (Exact.abs_trim_sub_le shape.exactLength)).1
  rw [exactLength_eq] at rounded
  linarith

theorem storedTotal_le_of_drift_lt {shape : Polyline Exact}
    (little : drift shape.segments < 1 / 20000) :
    storedTotal shape.segments ≤ (Scalar.trim shape.exactLength).value := by
  obtain ⟨seen, _, grid, total⟩ := covered_eq_ok shape.segments
  have close := storedTotal_le shape
  rw [← total] at close ⊢
  exact Exact.OnGrid.le_of_lt_add grid (Exact.onGrid_trim _) (by linarith)

/-! ### Nearest positions -/

/-- The search stops at some share of a segment, behind the stored lengths of those before it. -/
theorem FirstNearest.stop {p : Point Exact} {lines : List (Line Exact)} {squared : Exact}
    {offset : Distance Exact} (nearest : FirstNearest p lines squared offset) :
    ∃ (before after : List (Line Exact)) (line : Line Exact) (q : Point Exact) (share : ℝ),
      lines = before ++ line :: after ∧ line.HasLength ∧
      q.squaredDistanceTo p = squared ∧ dist q.place (line.along share) ≤ Point.slack ∧
      0 ≤ share ∧ share ≤ 1 ∧
      offset.meters.value = storedTotal before + share * line.storedLength.meters.value := by
  obtain ⟨before, line, after, seen, along, divided, offers, behind, sum, _⟩ := nearest
  obtain ⟨hasLength, located, q, found, measured⟩ := offers
  -- Over exact numbers, all that the search has done for this segment is known.
  obtain ⟨_, relocated, alongGrid, least, most⟩ := line.exists_nearestOffset p
  cases located.symm.trans relocated
  obtain ⟨_, refound, _, close⟩ := Line.exists_pointAt least most
  cases found.symm.trans refound
  obtain ⟨_, again, seenGrid, total⟩ := covered_eq_ok before
  cases behind.symm.trans again
  cases sum.symm.trans (seenGrid.add_eq_ok alongGrid)
  have positive := hasLength.storedLength_pos
  refine ⟨before, after, line, q, _, divided, hasLength, measured, close,
    div_nonneg least positive.le, div_le_one_of_le₀ most positive.le, ?_⟩
  rw [Exact.value_add, total, div_mul_cancel₀ _ positive.ne']

/-- A position that a search for the nearest one settles on. It is the first point if there is
nowhere else, and otherwise no segment offers a nearer one. -/
structure IsNearest (p first : Point Exact) (lines : List (Line Exact)) (q : Point Exact) :
    Prop where
  missing : (∀ line ∈ lines, ¬line.HasLength) → q = first
  least : ∀ line ∈ lines, ∀ along squared, line.Offers p along squared →
    ¬squared < q.squaredDistanceTo p

/-- Where the search stops by stored lengths, and where the traveler by exact lengths would have to
stop for the nearest position, are no further apart than the drift. -/
theorem stop_of_nearestOffset {first p : Point Exact} {rest : List (Point Exact)}
    {offset : Distance Exact} (found : nearestOffset ⟨first :: rest⟩ p = .ok offset) :
    0 ≤ offset.meters.value ∧ offset.meters.value ≤ storedTotal (segments ⟨first :: rest⟩) ∧
    ∃ q there, IsNearest p first (segments ⟨first :: rest⟩) q ∧
      dist q.place (travel first rest there) ≤ Point.slack ∧
      |offset.meters.value - there| ≤ drift (segments ⟨first :: rest⟩) := by
  rcases firstNearest_of_nearestOffset (Exact.totalOn fun _ => True) (fun _ _ _ _ _ => trivial)
    found with ⟨rfl, missing⟩ | ⟨squared, nearest⟩
  · have nowhere : IsNearest p first (segments ⟨first :: rest⟩) first :=
      ⟨fun _ => rfl, fun line member _ _ offers => absurd offers.hasLength (missing line member)⟩
    rw [Distance.value_zero]
    refine ⟨le_rfl, storedTotal_nonneg _, first, 0, nowhere, ?_, ?_⟩
    · rw [travel_of_nonpos le_rfl, dist_self]
      exact Point.slack_nonneg
    · rw [sub_zero, abs_zero]
      exact drift_nonneg _
  · obtain ⟨before, after, line, q, share, divided, hasLength, measured, near, least, most, sum⟩ :=
      nearest.stop
    have length := hasLength.exactLength_pos
    have settled : IsNearest p first (segments ⟨first :: rest⟩) q := by
      refine ⟨fun missing => absurd hasLength (missing line (by simp [divided])), ?_⟩
      intro other member along further offers
      rw [measured]
      exact nearest.least (Exact.totalOn fun _ => True) (fun _ _ _ _ _ => trivial) member offers
    rw [sum]
    refine ⟨?_, divided ▸ storedTotal_part_le before after line most, q,
      exactTotal before + share * line.exactLength.value, settled, ?_,
      divided ▸ abs_part_sub_le before after line least most⟩
    · exact add_nonneg (storedTotal_nonneg before) (mul_nonneg least line.storedLength_nonneg)
    · rw [travel_exactTotal divided (mul_nonneg least length.le)
        (mul_le_of_le_one_left length.le most), mul_div_cancel_right₀ _ length.ne']
      exact near

/-- The position found for the nearest offset is at most the drift and the rounding of two points
away from the nearest position, and at most the stored length away from the first point. -/
theorem exists_nearest (first : Point Exact) (rest : List (Point Exact)) (p : Point Exact) :
    ∃ offset point q, nearestOffset ⟨first :: rest⟩ p = .ok offset ∧
      pointAt? ⟨first :: rest⟩ offset = .ok (some point) ∧
      0 ≤ offset.meters.value ∧ offset.meters.value ≤ storedTotal (segments ⟨first :: rest⟩) ∧
      IsNearest p first (segments ⟨first :: rest⟩) q ∧
      dist point.place q.place ≤ drift (segments ⟨first :: rest⟩) + 2 * Point.slack ∧
      dist point.place first.place ≤ storedTotal (segments ⟨first :: rest⟩) + Point.slack := by
  obtain ⟨offset, found⟩ := exists_nearestOffset ⟨first :: rest⟩ p
  obtain ⟨point, placed, close⟩ := exists_pointAt? first rest offset
  obtain ⟨positive, within, q, there, nearest, near, off⟩ := stop_of_nearestOffset found
  refine ⟨offset, point, q, found, placed, positive, within, nearest, ?_, ?_⟩
  · have toStop := dist_travel_le_of_found close there
    have triangle := dist_triangle_right point.place q.place (travel first rest there)
    linarith
  · have toStart := dist_travel_le_of_found close 0
    rw [travel_of_nonpos le_rfl, sub_zero, abs_of_nonneg positive] at toStart
    linarith

/-! ### Vertices -/

/-- A segment that has a length offers its ends. -/
theorem offers_end {line : Line Exact} (grid : line.OnGrid) (long : line.start ≠ line.finish)
    {v : Point Exact} (ends : v = line.start ∨ v = line.finish) :
    ∃ along squared, line.Offers v along squared ∧ squared.value = 0 := by
  have hasLength := Line.hasLength_iff.mpr (grid.storedLength_pos long).ne'
  have here : (v.squaredDistanceTo v).value = 0 := by
    rw [Point.value_squaredDistanceTo, dist_self, sq, mul_zero]
  rcases ends with rfl | rfl
  · exact ⟨_, _, ⟨hasLength, line.nearestOffset_start, _, grid.pointAt_zero, rfl⟩, here⟩
  · have whole := grid.pointAt_storedLength long
    exact ⟨_, _, ⟨hasLength, Line.nearestOffset_finish long, _, whole, rfl⟩, here⟩

/-- The nearest position to a vertex is the vertex. -/
theorem IsNearest.eq_vertex {v first q : Point Exact} {rest : List (Point Exact)}
    (grid : ∀ p ∈ first :: rest, p.OnGrid) (member : v ∈ first :: rest)
    (nearest : IsNearest v first (segments ⟨first :: rest⟩) q) : q = v := by
  rcases exists_segment_at member with ⟨here, empty⟩ | ⟨line, further, long, ends⟩
  · have missing : ∀ line ∈ segments ⟨first :: rest⟩, ¬line.HasLength := by
      intro line member hasLength
      have length := hasLength.exactLength_pos
      rw [Line.value_exactLength, empty line member, dist_self] at length
      exact lt_irrefl _ length
    exact (nearest.missing missing).trans here.symm
  · obtain ⟨along, squared, offers, zero⟩ :=
      offers_end (onGrid_of_mem_segments grid further) long ends
    have least := nearest.least line further along squared offers
    rw [Exact.lt_iff, zero, Point.value_squaredDistanceTo, not_lt] at least
    have reached : dist q.place v.place = 0 :=
      pow_eq_zero_iff two_ne_zero |>.mp (le_antisymm least (sq_nonneg _))
    exact Point.place_injective (dist_eq_zero.mp reached)

/-- The nearest offset to a vertex is an offset into the polyline, and leads to that vertex, up to
the drift and to rounding. So with seventeen segments or fewer it leads to within a millimeter, and
while the drift is less than half of the stored precision it does not exceed the length. -/
theorem nearestOffset_vertex {shape : Polyline Exact} {v : Point Exact}
    (grid : ∀ p ∈ shape.points, p.OnGrid) (member : v ∈ shape.points) :
    ∃ offset point total, shape.nearestOffset v = .ok offset ∧
      shape.pointAt? offset = .ok (some point) ∧ shape.length = .ok total ∧
      .zero ≤ offset ∧
      offset.meters.value ≤ total.meters.value + drift shape.segments + 1 / 20000 ∧
      (drift shape.segments < 1 / 20000 → offset ≤ total) ∧
      (point.exactDistanceTo v).value ≤ drift shape.segments + 2 * Point.slack ∧
      (shape.segments.length ≤ 17 → (point.exactDistanceTo v).value ≤ 1 / 1000) := by
  obtain ⟨points⟩ := shape
  cases points with
  | nil => cases member
  | cons first rest =>
    obtain ⟨offset, point, q, found, placed, positive, within, nearest, near, _⟩ :=
      exists_nearest first rest v
    obtain rfl := nearest.eq_vertex grid member
    refine ⟨offset, point, _, found, placed, length_eq_ok _, ?_, ?_, fun little => ?_, ?_,
      fun few => ?_⟩
    · rw [Distance.le_iff, Distance.value_zero]
      exact positive
    · exact within.trans (storedTotal_le _)
    · exact within.trans (storedTotal_le_of_drift_lt little)
    · rw [Point.value_exactDistanceTo]
      exact near
    · have bound : ((segments ⟨first :: rest⟩).length : ℝ) ≤ 17 := by exact_mod_cast few
      rw [Point.value_exactDistanceTo]
      linarith [drift_le (segments ⟨first :: rest⟩), Point.slack_le]

/-- Vertices of a path with two legs, the first five meters long and the second of irrational
length. -/
theorem nearestOffset_vertex_of_bend :
    (∀ p ∈ ([⟨0, 0⟩, ⟨3, 4⟩, ⟨4, 5⟩] : List (Point Exact)), p.OnGrid) ∧
    (⟨3, 4⟩ : Point Exact) ∈ ([⟨0, 0⟩, ⟨3, 4⟩, ⟨4, 5⟩] : List (Point Exact)) ∧
    ∃ offset point, (Polyline.mk [⟨0, 0⟩, ⟨3, 4⟩, ⟨4, 5⟩]).nearestOffset (⟨3, 4⟩ : Point Exact) =
        .ok offset ∧
      (Polyline.mk [⟨0, 0⟩, ⟨3, 4⟩, ⟨4, 5⟩]).pointAt? offset = .ok (some point) ∧
      (point.exactDistanceTo ⟨3, 4⟩).value ≤ 1 / 1000 := by
  have grid : ∀ p ∈ ([⟨0, 0⟩, ⟨3, 4⟩, ⟨4, 5⟩] : List (Point Exact)), p.OnGrid := by
    have natural := Exact.onGrid_ofNat
    simp only [List.forall_mem_cons, List.not_mem_nil, false_implies, implies_true, and_true]
    exact ⟨⟨natural 0, natural 0⟩, ⟨natural 3, natural 4⟩, ⟨natural 4, natural 5⟩⟩
  refine ⟨grid, by simp, ?_⟩
  have member : (⟨3, 4⟩ : Point Exact) ∈ (Polyline.mk [⟨0, 0⟩, ⟨3, 4⟩, ⟨4, 5⟩]).points := by simp
  obtain ⟨offset, point, _, found, placed, _, _, _, _, _, near⟩ := nearestOffset_vertex grid member
  exact ⟨offset, point, found, placed, near (by simp)⟩

/-! ### Long straight polylines -/

/-- The vertices of a straight polyline of equal segments, five meters along one axis and six along
the other. -/
noncomputable def milestone (i : ℕ) : Point Exact := ⟨Scalar.ofNat (5 * i), Scalar.ofNat (6 * i)⟩

noncomputable def diagonal (count : ℕ) : Polyline Exact := ⟨(List.range (count + 1)).map milestone⟩

theorem dist_milestone (i count : ℕ) :
    dist (milestone i).place (milestone (i + count)).place = √61 * count := by
  have squares : (((milestone i).place.re - (milestone (i + count)).place.re) ^ 2 +
      ((milestone i).place.im - (milestone (i + count)).place.im) ^ 2) = 61 * (count : ℝ) ^ 2 := by
    change (((5 * i : ℕ) : ℝ) - ((5 * (i + count) : ℕ) : ℝ)) ^ 2 +
      (((6 * i : ℕ) : ℝ) - ((6 * (i + count) : ℕ) : ℝ)) ^ 2 = _
    push_cast
    ring
  rw [Complex.dist_eq_re_im, squares, Real.sqrt_mul (by norm_num), Real.sqrt_sq (Nat.cast_nonneg _)]

theorem milestone_of_getElem? {count i : ℕ} {p : Point Exact}
    (here : (diagonal count).points[i]? = some p) : p = milestone i := by
  obtain ⟨within, rfl⟩ := List.getElem?_eq_some_iff.mp here
  simp [diagonal]

/-- The stored length of a segment falls short of its length by almost half a ten-thousandth. -/
theorem storedTotal_diagonal_le (count : ℕ) :
    storedTotal (diagonal count).segments ≤ count * (78102 / 10000) := by
  have each : ∀ length ∈ (diagonal count).segments.map fun line => line.storedLength.meters.value,
      length ≤ 78102 / 10000 := by
    intro length member
    obtain ⟨line, within, rfl⟩ := List.mem_map.mp member
    have exact : line.exactLength.value = √61 := by
      obtain ⟨i, starts, finishes⟩ := getElem?_of_mem_segments within
      rw [Line.value_exactLength, milestone_of_getElem? starts, milestone_of_getElem? finishes,
        dist_milestone, Nat.cast_one, mul_one]
    have root : √61 < 781025 / 100000 := (Real.sqrt_lt' (by norm_num)).mpr (by norm_num)
    have stored : (78102 / 10000 : Exact).OnGrid := ⟨78102, by simp⟩
    have value : (78102 / 10000 : Exact).value = 78102 / 10000 := by simp
    rw [← value]
    refine line.onGrid_storedLength.le_of_lt_add stored ?_
    have rounded := (abs_le.mp line.abs_storedLength_sub_le).2
    rw [value]
    linarith
  have sum := List.sum_le_card_nsmul _ _ each
  rw [List.length_map, length_segments, nsmul_eq_mul] at sum
  simpa [diagonal, storedTotal] using sum

theorem nearestOffset_diagonal_drifts (count : ℕ) :
    ∃ offset point, (diagonal count).nearestOffset (milestone count) = .ok offset ∧
      (diagonal count).pointAt? offset = .ok (some point) ∧
      count * (√61 - 78102 / 10000) - Point.slack ≤
        (point.exactDistanceTo (milestone count)).value := by
  have shape : diagonal count = ⟨milestone 0 :: (List.range count).map (milestone ∘ Nat.succ)⟩ := by
    rw [diagonal, List.range_succ_eq_map, List.map_cons, List.map_map]
  rw [shape]
  obtain ⟨offset, point, _, found, placed, _, _, _, _, near⟩ :=
    exists_nearest (milestone 0) ((List.range count).map (milestone ∘ Nat.succ)) (milestone count)
  rw [← shape] at near
  refine ⟨offset, point, found, placed, ?_⟩
  have total := storedTotal_diagonal_le count
  have wholeWay := dist_milestone 0 count
  have triangle := dist_triangle_left (milestone 0).place (milestone count).place point.place
  rw [zero_add] at wholeWay
  rw [Point.value_exactDistanceTo]
  linarith

/-- The nearest position to the end of a straight road of 187 m leads more than a millimeter away
from the end. -/
theorem nearestOffset_misses_end :
    milestone 24 ∈ (diagonal 24).points ∧ (∀ p ∈ (diagonal 24).points, p.OnGrid) ∧
    ∃ offset point, (diagonal 24).nearestOffset (milestone 24) = .ok offset ∧
      (diagonal 24).pointAt? offset = .ok (some point) ∧
      1 / 1000 < (point.exactDistanceTo (milestone 24)).value := by
  obtain ⟨offset, point, found, placed, off⟩ := nearestOffset_diagonal_drifts 24
  have root : (7810249 / 1000000 : ℝ) < √61 := Real.lt_sqrt_of_sq_lt (by norm_num)
  have slack := Point.slack_le
  refine ⟨?_, ?_, offset, point, found, placed, ?_⟩
  · exact List.mem_map_of_mem (List.mem_range.mpr (by norm_num))
  · intro p member
    obtain ⟨i, _, rfl⟩ := List.mem_map.mp member
    exact ⟨Exact.onGrid_ofNat _, Exact.onGrid_ofNat _⟩
  · push_cast at off
    linarith

end Polyline

end RoadSketch
