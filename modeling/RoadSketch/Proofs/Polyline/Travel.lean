import RoadSketch.Proofs.Polyline.Total
import RoadSketch.Proofs.Segments

/-!
# Traveling along polylines

Where a traveler is who has covered some distance along a polyline, without rounding. Moving on by
some distance leads no further away than that, and the position that a polyline finds some distance
along is the traveler's, rounded to the stored precision.
-/
namespace RoadSketch

namespace Line

/-- Along a segment, positions are as far apart as what has been covered. -/
theorem dist_along_le (line : Line Exact) (x y : ℝ) :
    dist (line.along (x / line.exactLength.value)) (line.along (y / line.exactLength.value)) ≤
      |x - y| := by
  rw [along, along, dist_lineMap_lineMap, ← value_exactLength, Real.dist_eq, ← sub_div, abs_div,
    abs_of_nonneg line.exactLength_nonneg]
  rcases eq_or_ne line.exactLength.value 0 with zero | nonzero
  · rw [zero, mul_zero]
    exact abs_nonneg _
  · rw [div_mul_cancel₀ _ nonzero]

/-- Whoever covers the whole length is at the end, also if there is no length. -/
theorem along_whole (line : Line Exact) :
    line.along (line.exactLength.value / line.exactLength.value) = line.finish.place := by
  rcases eq_or_ne line.exactLength.value 0 with zero | nonzero
  · rw [value_exactLength, dist_eq_zero] at zero
    rw [along, zero, AffineMap.lineMap_same, AffineMap.const_apply]
  · rw [div_self nonzero, along, AffineMap.lineMap_apply_one]

end Line

namespace Polyline

/-- Where covering some distance leads from a point on through others. Before the start and beyond
the end there is nowhere to go. -/
noncomputable def travel (p : Point Exact) : List (Point Exact) → ℝ → ℂ
  | [], _ => p.place
  | q :: rest, distance =>
    let line := Line.mk p q
    if distance < line.exactLength.value then
      line.along (max distance 0 / line.exactLength.value)
    else travel q rest (distance - line.exactLength.value)

theorem travel_of_nonpos {p : Point Exact} {rest : List (Point Exact)} {distance : ℝ}
    (behind : distance ≤ 0) : travel p rest distance = p.place := by
  induction rest generalizing p distance with
  | nil => rfl
  | cons q rest ih =>
    rw [travel]
    split
    · rw [max_eq_right behind, zero_div, Line.along, AffineMap.lineMap_apply_zero]
    · next reaches =>
      have length := (Line.mk p q).exactLength_nonneg
      have noLength : (Line.mk p q).exactLength.value = 0 := by linarith
      rw [ih (by linarith)]
      rw [Line.value_exactLength, dist_eq_zero] at noLength
      exact noLength.symm

/-- Covering a distance leads no further than that. -/
theorem dist_travel_le_sub (p : Point Exact) (rest : List (Point Exact)) {d e : ℝ}
    (ordered : d ≤ e) : dist (travel p rest d) (travel p rest e) ≤ e - d := by
  induction rest generalizing p d e with
  | nil => simpa [travel] using ordered
  | cons q rest ih =>
    have step : |max d 0 - max e 0| ≤ e - d := by
      rw [← abs_of_nonneg (sub_nonneg.mpr ordered), abs_sub_comm e d]
      exact abs_max_sub_max_le_abs d e 0
    rw [travel, travel]
    generalize line_def : Line.mk p q = line
    by_cases early : e < line.exactLength.value
    · -- Both are on the first segment.
      rw [if_pos early, if_pos (ordered.trans_lt early)]
      exact (line.dist_along_le _ _).trans step
    · by_cases between : d < line.exactLength.value
      · -- The corner is between them.
        rw [if_pos between, if_neg early]
        have toCorner := line.dist_along_le (max d 0) line.exactLength.value
        have fromCorner := ih q (sub_nonneg.mpr (not_lt.mp early))
        rw [line.along_whole] at toCorner
        rw [travel_of_nonpos le_rfl] at fromCorner
        have corner : line.finish = q := by rw [← line_def]
        have uncovered : |max d 0 - line.exactLength.value| ≤ line.exactLength.value - d := by
          rw [abs_sub_comm, abs_of_nonneg]
          · exact sub_le_sub_left (le_max_left d 0) _
          · exact sub_nonneg.mpr (max_le between.le line.exactLength_nonneg)
        rw [corner] at toCorner
        have triangle := dist_triangle (line.along (max d 0 / line.exactLength.value)) q.place
          (travel q rest (e - line.exactLength.value))
        linarith
      · rw [if_neg between, if_neg early]
        have later := ih q (sub_le_sub_right ordered line.exactLength.value)
        linarith

/-- Covering more or less leads no further away than the difference. -/
theorem dist_travel_le_abs (p : Point Exact) (rest : List (Point Exact)) (d e : ℝ) :
    dist (travel p rest d) (travel p rest e) ≤ |d - e| := by
  rcases le_total d e with ordered | ordered
  · exact (dist_travel_le_sub p rest ordered).trans ((le_abs_self _).trans_eq (abs_sub_comm e d))
  · rw [dist_comm]
    exact (dist_travel_le_sub p rest ordered).trans (le_abs_self _)

/-- A segment of no length is no way at all. -/
theorem travel_cons_self (p : Point Exact) (rest : List (Point Exact)) (distance : ℝ) :
    travel p (p :: rest) distance = travel p rest distance := by
  have noLength : (Line.mk p p).exactLength.value = 0 := by
    rw [Line.value_exactLength, dist_self]
  rw [travel, noLength]
  split
  next behind =>
    rw [max_eq_right behind.le, zero_div, Line.along, AffineMap.lineMap_apply_zero,
      travel_of_nonpos behind.le]
  next => rw [sub_zero]

/-! ### Sums of lengths -/

theorem onGrid_of_mem_segments {shape : Polyline Exact} (grid : ∀ p ∈ shape.points, p.OnGrid)
    {line : Line Exact} (member : line ∈ shape.segments) : line.OnGrid := by
  obtain ⟨i, starts, finishes⟩ := getElem?_of_mem_segments member
  exact ⟨grid _ (List.mem_of_getElem? starts), grid _ (List.mem_of_getElem? finishes)⟩

/-- The sum of the lengths of segments, before they are brought to the stored precision. -/
noncomputable def exactTotal (lines : List (Line Exact)) : ℝ :=
  (lines.map fun line => line.exactLength.value).sum

theorem exactLength_eq (shape : Polyline Exact) :
    shape.exactLength.value = exactTotal shape.segments := by
  suffices general : ∀ (lines : List (Line Exact)) (sum : Exact),
      (lines.foldl (fun sum line => sum + line.exactLength) sum).value =
        sum.value + exactTotal lines by
    simpa [exactLength] using general shape.segments 0
  intro lines
  induction lines with
  | nil => simp [exactTotal]
  | cons line rest ih =>
    intro sum
    rw [List.foldl_cons, ih, Exact.value_add, exactTotal, exactTotal, List.map_cons, List.sum_cons,
      add_assoc]

theorem exactTotal_cons (line : Line Exact) (lines : List (Line Exact)) :
    exactTotal (line :: lines) = line.exactLength.value + exactTotal lines := List.sum_cons

theorem exactTotal_nonneg (lines : List (Line Exact)) : 0 ≤ exactTotal lines := by
  apply List.sum_nonneg
  intro length member
  obtain ⟨line, _, rfl⟩ := List.mem_map.mp member
  exact line.exactLength_nonneg

/-- Whoever has covered all segments is at the last point. -/
theorem travel_of_total_le {p : Point Exact} {rest : List (Point Exact)} {distance : ℝ}
    (covered : exactTotal (segments ⟨p :: rest⟩) ≤ distance) :
    travel p rest distance = ((p :: rest).getLast (List.cons_ne_nil p rest)).place := by
  induction rest generalizing p distance with
  | nil => rfl
  | cons q rest ih =>
    rw [segments_cons_cons, exactTotal_cons] at covered
    have others := exactTotal_nonneg (segments ⟨q :: rest⟩)
    rw [travel, if_neg (by linarith), ih (by linarith), List.getLast_cons_cons]

/-- Whoever has nearly covered all segments is close to the last point. -/
theorem dist_travel_last_lt {p : Point Exact} {rest : List (Point Exact)} {distance gap : ℝ}
    (positive : 0 < gap) (nearly : exactTotal (segments ⟨p :: rest⟩) < distance + gap) :
    dist (travel p rest distance) ((p :: rest).getLast (List.cons_ne_nil p rest)).place < gap := by
  rcases le_total (exactTotal (segments ⟨p :: rest⟩)) distance with covered | short
  · rw [travel_of_total_le covered, dist_self]
    exact positive
  · have remaining := dist_travel_le_sub p rest short
    rw [travel_of_total_le le_rfl] at remaining
    linarith

/-! ### Positions found along polylines -/

/-- A point is found for a place if it is what the place is brought to, or a vertex there. -/
inductive FoundAt (points : List (Point Exact)) (place : ℂ) : Point Exact → Prop
  | rounded : FoundAt points place (.nearestTo place)
  | vertex {p : Point Exact} : p ∈ points → p.place = place → FoundAt points place p

theorem FoundAt.dist_le {points : List (Point Exact)} {place : ℂ} {p : Point Exact}
    (found : FoundAt points place p) : dist p.place place ≤ Point.slack := by
  cases found with
  | rounded => exact Point.dist_nearestTo_le place
  | vertex _ here =>
    rw [here, dist_self]
    exact Point.slack_nonneg

/-- Vertices of the stored precision are what their places are brought to. -/
theorem FoundAt.eq_nearestTo {points : List (Point Exact)} {place : ℂ} {p : Point Exact}
    (found : FoundAt points place p) (grid : ∀ q ∈ points, q.OnGrid) : p = .nearestTo place := by
  cases found with
  | rounded => rfl
  | vertex member here => rw [← here, (grid p member).nearestTo_place]

theorem FoundAt.cons {points : List (Point Exact)} {place : ℂ} {p : Point Exact}
    (found : FoundAt points place p) (first : Point Exact) : FoundAt (first :: points) place p := by
  cases found with
  | rounded => exact .rounded
  | vertex member here => exact .vertex (List.mem_cons_of_mem first member) here

/-- On the way along the segments, what is found is where the traveler is. -/
theorem foundAt_of_locateAmong {start p : Point Exact} {rest : List (Point Exact)}
    {distance seen : Exact} {last : Option (Line Exact)} {location : Location Exact}
    (here : last.elim start Line.finish = p)
    (found : locateAmong start distance seen last (segments ⟨p :: rest⟩) = .ok location) :
    FoundAt (p :: rest) (travel p rest (distance.value - seen.value)) location.point := by
  induction rest generalizing p seen last with
  | nil =>
    have ended : location.point = p := by
      cases last with
      | none =>
        cases found
        exact here
      | some line =>
        cases found
        exact here
    exact .vertex (List.mem_singleton.mpr ended) (congrArg Point.place ended)
  | cons q rest ih =>
    rw [segments_cons_cons, locateAmong] at found
    split at found
    next empty =>
      -- A segment of no length is skipped, and the point before it is the one behind it.
      obtain rfl : p = q := Line.exactLength_le_zero_iff.mp empty
      rw [travel_cons_self]
      exact (ih here found).cons p
    next =>
      rw [travel]
      split at found
      next before =>
        simp only [Line.pointAtShare_eq_nearestTo, Checked.ok_bind, Checked.pure_eq_ok] at found
        rw [if_pos (sub_lt_iff_lt_add'.mpr before), ← found]
        have along : (Scalar.greater (distance - seen) 0 / (Line.mk p q).exactLength).value =
            max (distance.value - seen.value) 0 / (Line.mk p q).exactLength.value := by
          simp [Exact.value_greater]
        rw [along]
        exact .rounded
      next behind =>
        rw [if_neg (fun before => behind (sub_lt_iff_lt_add'.mp before)), sub_sub]
        exact (ih rfl found).cons p

theorem locate?_eq_some {p : Point Exact} {rest : List (Point Exact)} {distance : Exact}
    {location : Location Exact}
    (found : locateAmong p distance 0 none (segments ⟨p :: rest⟩) = .ok location) :
    locate? ⟨p :: rest⟩ distance = .ok (some location) := by
  simp only [locate?, first?, List.head?_cons, found, Checked.ok_bind]
  rfl

/-- Every polyline that has a point finds the traveler's position. -/
theorem exists_location (p : Point Exact) (rest : List (Point Exact)) (distance : Exact) :
    ∃ location, locateAmong p distance 0 none (segments ⟨p :: rest⟩) = .ok location ∧
      FoundAt (p :: rest) (travel p rest distance.value) location.point := by
  obtain ⟨location, found⟩ := exists_locateAmong p distance 0 none (segments ⟨p :: rest⟩)
  exact ⟨location, found, by simpa using foundAt_of_locateAmong rfl found⟩

theorem exists_pointAt? (p : Point Exact) (rest : List (Point Exact)) (distance : Distance Exact) :
    ∃ q, pointAt? ⟨p :: rest⟩ distance = .ok (some q) ∧
      dist q.place (travel p rest distance.meters.value) ≤ Point.slack := by
  obtain ⟨location, found, there⟩ := exists_location p rest distance.meters
  refine ⟨location.point, ?_, there.dist_le⟩
  rw [pointAt?, locate?_eq_some found, Checked.ok_bind]
  rfl

/-- A position found for some distance is next to where covering about that distance leads. -/
theorem dist_travel_le_of_found {p q : Point Exact} {rest : List (Point Exact)} {distance : ℝ}
    (close : dist q.place (travel p rest distance) ≤ Point.slack) (other : ℝ) :
    dist q.place (travel p rest other) ≤ |distance - other| + Point.slack := by
  have triangle := dist_triangle q.place (travel p rest distance) (travel p rest other)
  have moved := dist_travel_le_abs p rest distance other
  linarith

/-! ### Positions on a segment -/

/-- Whoever has covered all segments before one, and some of it, is on it. -/
theorem travel_exactTotal {p : Point Exact} {rest : List (Point Exact)} {line : Line Exact}
    {before after : List (Line Exact)} (split : segments ⟨p :: rest⟩ = before ++ line :: after)
    {distance : ℝ} (positive : 0 ≤ distance) (within : distance ≤ line.exactLength.value) :
    travel p rest (exactTotal before + distance) =
      line.along (distance / line.exactLength.value) := by
  induction before generalizing p rest with
  | nil =>
    cases rest with
    | nil => cases split
    | cons q rest =>
      obtain ⟨rfl, _⟩ := List.cons.inj split
      rw [exactTotal, List.map_nil, List.sum_nil, zero_add, travel, max_eq_left positive]
      rcases within.lt_or_eq with inside | whole
      · rw [if_pos inside]
      · rw [if_neg whole.ge.not_gt, whole, sub_self, travel_of_nonpos le_rfl, Line.along_whole]
  | cons first before ih =>
    cases rest with
    | nil => cases split
    | cons q rest =>
      obtain ⟨rfl, others⟩ := List.cons.inj split
      have shorter : exactTotal (⟨p, q⟩ :: before) + distance - (Line.mk p q).exactLength.value =
          exactTotal before + distance := by
        rw [exactTotal_cons]
        ring
      have covered := exactTotal_nonneg before
      rw [travel, if_neg (by linarith), shorter]
      exact ih others

end Polyline

end RoadSketch
