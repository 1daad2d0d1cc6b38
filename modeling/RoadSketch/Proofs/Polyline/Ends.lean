import RoadSketch.Proofs.Polyline.Travel

/-!
# Ends of polylines

Positions at the start or before it are the first point, and positions at the stored length or
beyond are exactly the last one. The stored length may be shorter than the polyline, but by less than
half a step of the stored precision. So a position there is brought to the last point, and as every
segment that has a length is at least a step long, it still falls on the last of them.

## Main result

`ends_found`: the points and directions found at both ends, and whether there is a direction at all.
-/
namespace RoadSketch.Polyline

/-- A shape that has points, all in the stored precision. -/
structure Stored (shape : Polyline Exact) : Prop where
  present : shape.points ≠ []
  grid : ∀ p ∈ shape.points, p.OnGrid

theorem Stored.exists_first? {shape : Polyline Exact} (stored : shape.Stored) :
    ∃ p, shape.first? = some p ∧ p.OnGrid :=
  ⟨_, List.head?_eq_some_head stored.present, stored.grid _ (List.head_mem _)⟩

theorem Stored.exists_last? {shape : Polyline Exact} (stored : shape.Stored) :
    ∃ p, shape.last? = some p ∧ p.OnGrid :=
  ⟨_, List.getLast?_eq_some_getLast stored.present, stored.grid _ (List.getLast_mem _)⟩

/-! ### Points at the ends -/

theorem exactLength_nonneg (shape : Polyline Exact) : 0 ≤ shape.exactLength.value := by
  rw [exactLength_eq]
  exact exactTotal_nonneg _

/-- The stored length reaches the end up to less than half a step, as what is half way between two
steps is brought up. -/
theorem exactLength_lt_of_length_le {shape : Polyline Exact} {distance : Exact}
    (beyond : Scalar.trim shape.exactLength ≤ distance) :
    shape.exactLength.value < distance.value + 1 / 20000 := by
  have short := Exact.lt_trim_add shape.exactLength_nonneg
  have further : (Scalar.trim shape.exactLength).value ≤ distance.value := beyond
  linarith

variable {p : Point Exact} {rest : List (Point Exact)} {distance : Exact}

theorem nearestTo_travel_of_nonpos (grid : ∀ q ∈ p :: rest, q.OnGrid)
    (behind : distance.value ≤ 0) : .nearestTo (travel p rest distance.value) = p := by
  rw [travel_of_nonpos behind, (grid p List.mem_cons_self).nearestTo_place]

theorem nearestTo_travel_of_end (grid : ∀ q ∈ p :: rest, q.OnGrid)
    (reached : (exactLength ⟨p :: rest⟩).value < distance.value + 1 / 20000) :
    .nearestTo (travel p rest distance.value) = (p :: rest).getLast (List.cons_ne_nil p rest) := by
  rw [exactLength_eq] at reached
  have close := dist_travel_last_lt (by norm_num) reached
  exact (grid _ (List.getLast_mem _)).nearestTo_eq close

/-! ### Segments that have a length -/

/-- Some segment of the shape has a length. -/
def HasDirection (shape : Polyline Exact) : Prop :=
  ∃ line ∈ shape.segments, line.start ≠ line.finish

/-- A position has a direction iff some segment has a length, behind it or ahead. -/
theorem isSome_line_of_locateAmong {start : Point Exact} {distance seen : Exact}
    {last : Option (Line Exact)} {lines : List (Line Exact)} {location : Location Exact}
    (found : locateAmong start distance seen last lines = .ok location) :
    location.line.isSome ↔ last.isSome ∨ ∃ line ∈ lines, line.start ≠ line.finish := by
  induction lines generalizing seen last with
  | nil =>
    cases last with
    | none =>
      cases found
      simp
    | some line =>
      cases found
      simp
  | cons line rest ih =>
    rw [locateAmong] at found
    split at found
    next empty =>
      have same : line.start = line.finish := Line.exactLength_le_zero_iff.mp empty
      simpa [same] using ih found
    next long =>
      have differ : line.start ≠ line.finish := mt Line.exactLength_le_zero_iff.mpr long
      split at found
      · simp only [Checked.bind_eq_ok, Checked.pure_eq_ok] at found
        obtain ⟨p, _, rfl⟩ := found
        simp [differ]
      · have later := ih found
        simp only [Option.isSome_some, true_or, iff_true] at later
        simp [differ, later]

/-- Every shape says whether it has a direction. -/
theorem exists_directionAt? {shape : Polyline Exact} (some : shape.points ≠ [])
    (distance : Distance Exact) :
    ∃ angle?, shape.directionAt? distance = .ok angle? ∧
      (angle?.isSome ↔ shape.HasDirection) := by
  obtain ⟨points⟩ := shape
  cases points with
  | nil => exact absurd rfl some
  | cons p rest =>
    obtain ⟨location, found, _⟩ := exists_location p rest distance.meters
    refine ⟨location.line.map Line.angle, ?_, ?_⟩
    · rw [directionAt?, locate?_eq_some found, Checked.ok_bind]
      rfl
    · rw [Option.isSome_map, isSome_line_of_locateAmong found]
      simp [HasDirection]

/-- A shape has no direction iff all its points are one. -/
theorem not_hasDirection_iff {shape : Polyline Exact} :
    ¬shape.HasDirection ↔ ∀ p ∈ shape.points, ∀ q ∈ shape.points, p = q := by
  constructor
  · intro flat p here q there
    obtain ⟨points⟩ := shape
    cases points with
    | nil => cases here
    | cons first rest =>
      have same {v : Point Exact} (member : v ∈ first :: rest) : v = first := by
        rcases exists_segment_at member with ⟨same, _⟩ | ⟨line, within, long, _⟩
        · exact same
        · exact absurd ⟨line, within, long⟩ flat
      rw [same here, same there]
  · rintro one ⟨line, member, long⟩
    obtain ⟨i, starts, finishes⟩ := getElem?_of_mem_segments member
    exact long (one _ (List.mem_of_getElem? starts) _ (List.mem_of_getElem? finishes))

/-- The segments that have a length. -/
noncomputable def longSegments (shape : Polyline Exact) : List (Line Exact) :=
  shape.segments.filter fun line => line.start != line.finish

theorem long_of_mem_longSegments {shape : Polyline Exact} {line : Line Exact}
    (member : line ∈ shape.longSegments) : line.start ≠ line.finish :=
  bne_iff_ne.mp (List.mem_filter.mp member).2

theorem exactTotal_longSegments (shape : Polyline Exact) :
    exactTotal shape.longSegments = shape.exactLength.value := by
  rw [exactLength_eq, longSegments]
  induction shape.segments with
  | nil => rfl
  | cons line rest ih =>
    by_cases same : line.start = line.finish
    · have noLength : line.exactLength.value = 0 := by
        rw [Line.value_exactLength, same, dist_self]
      rw [List.filter_cons_of_neg (by simpa using same), ih, exactTotal_cons, noLength, zero_add]
    · rw [List.filter_cons_of_pos (by simpa using same), exactTotal_cons, ih, exactTotal_cons]

/-- Only segments that have a length are looked at. -/
theorem locateAmong_segments (start : Point Exact) (distance seen : Exact)
    (last : Option (Line Exact)) (shape : Polyline Exact) :
    locateAmong start distance seen last shape.segments =
      locateAmong start distance seen last shape.longSegments := by
  rw [longSegments]
  induction shape.segments generalizing seen last with
  | nil => rfl
  | cons line rest ih =>
    by_cases same : line.start = line.finish
    · rw [List.filter_cons_of_neg (by simpa using same), locateAmong,
        if_pos (Line.exactLength_le_zero_iff.mpr same), ih]
    · have long : ¬line.exactLength ≤ 0 := mt Line.exactLength_le_zero_iff.mp same
      rw [List.filter_cons_of_pos (by simpa using same), locateAmong, locateAmong, if_neg long,
        if_neg long, ih]

/-- A position at the start or before it falls on the first segment. -/
theorem line_of_locateAmong_start {start : Point Exact} {seen : Exact} {lines : List (Line Exact)}
    {location : Location Exact} (long : ∀ line ∈ lines, line.start ≠ line.finish)
    (behind : distance.value ≤ seen.value)
    (found : locateAmong start distance seen none lines = .ok location) :
    location.line = lines.head? := by
  cases lines with
  | nil =>
    cases found
    rfl
  | cons line rest =>
    have positive : ¬line.exactLength ≤ 0 :=
      mt Line.exactLength_le_zero_iff.mp (long line List.mem_cons_self)
    have before : distance < seen + line.exactLength := by
      simp only [Exact.le_iff, Exact.value_literal, Nat.cast_zero, not_le] at positive
      simp only [Exact.lt_iff, Exact.value_add]
      linarith
    rw [locateAmong, if_neg positive, if_pos before] at found
    simp only [Checked.bind_eq_ok, Checked.pure_eq_ok] at found
    obtain ⟨_, _, rfl⟩ := found
    rfl

/-- A position that reaches the end falls on the last segment. -/
theorem line_of_locateAmong_end {start : Point Exact} {seen : Exact} {last : Option (Line Exact)}
    {lines : List (Line Exact)} {location : Location Exact}
    (steps : ∀ line ∈ lines, 1 / 10000 ≤ line.exactLength.value)
    (reached : seen.value + exactTotal lines < distance.value + 1 / 20000)
    (found : locateAmong start distance seen last lines = .ok location) :
    location.line = lines.getLast?.or last := by
  induction lines generalizing seen last with
  | nil =>
    cases last <;>
    · cases found
      rfl
  | cons line rest ih =>
    obtain ⟨step, later⟩ := List.forall_mem_cons.mp steps
    have positive : ¬line.exactLength ≤ 0 := by
      simp only [Exact.le_iff, Exact.value_literal, Nat.cast_zero, not_le]
      linarith
    rw [exactTotal_cons] at reached
    rw [locateAmong, if_neg positive] at found
    split at found
    next before =>
      -- Another segment would be a step long, and the end would not be reached.
      have last : rest = [] := by
        cases rest with
        | nil => rfl
        | cons next others =>
          have step := later next List.mem_cons_self
          have positive := exactTotal_nonneg others
          rw [exactTotal_cons] at reached
          rw [Exact.lt_iff, Exact.value_add] at before
          linarith
      simp only [Checked.bind_eq_ok, Checked.pure_eq_ok] at found
      obtain ⟨_, _, rfl⟩ := found
      rw [last]
      rfl
    next =>
      rw [ih later (by rw [Exact.value_add]; linarith) found, List.getLast?_cons]
      cases rest.getLast? <;> rfl

/-! ### Both ends -/

/-- In a shape of stored points, what is found is the traveler's position in the stored precision. -/
theorem exists_locate?_of_onGrid (grid : ∀ q ∈ p :: rest, q.OnGrid) (distance : Exact) :
    ∃ line?, locateAmong p distance 0 none (longSegments ⟨p :: rest⟩) =
        .ok ⟨.nearestTo (travel p rest distance.value), line?⟩ ∧
      locate? ⟨p :: rest⟩ distance =
        .ok (some ⟨.nearestTo (travel p rest distance.value), line?⟩) := by
  obtain ⟨⟨point, line?⟩, found, there⟩ := exists_location p rest distance
  obtain rfl : point = .nearestTo (travel p rest distance.value) := there.eq_nearestTo grid
  exact ⟨line?, locateAmong_segments .. ▸ found, locate?_eq_some found⟩

theorem locate?_start {shape : Polyline Exact} (stored : shape.Stored)
    (behind : distance.value ≤ 0) : shape.locate? distance =
      .ok (shape.first?.map fun p => ⟨p, shape.longSegments.head?⟩) := by
  obtain ⟨points⟩ := shape
  cases points with
  | nil => exact absurd rfl stored.present
  | cons p rest =>
    obtain ⟨line?, among, found⟩ := exists_locate?_of_onGrid stored.grid distance
    obtain rfl : line? = _ := line_of_locateAmong_start (fun _ => long_of_mem_longSegments)
      (by simpa using behind) among
    rw [found, nearestTo_travel_of_nonpos stored.grid behind]
    rfl

theorem locate?_end {shape : Polyline Exact} (stored : shape.Stored)
    (reached : shape.exactLength.value < distance.value + 1 / 20000) : shape.locate? distance =
      .ok (shape.last?.map fun p => ⟨p, shape.longSegments.getLast?⟩) := by
  have last := List.getLast?_eq_some_getLast stored.present
  have steps : ∀ line ∈ shape.longSegments, 1 / 10000 ≤ line.exactLength.value :=
    fun line member => (onGrid_of_mem_segments stored.grid (List.mem_filter.mp member).1)
      |>.le_exactLength (long_of_mem_longSegments member)
  obtain ⟨points⟩ := shape
  cases points with
  | nil => exact absurd rfl stored.present
  | cons p rest =>
    obtain ⟨line?, among, found⟩ := exists_locate?_of_onGrid stored.grid distance
    obtain rfl : line? = _ := line_of_locateAmong_end steps
      (by simpa [exactTotal_longSegments] using reached) among
    rw [found, nearestTo_travel_of_end stored.grid reached, last?, last, Option.or_none]
    rfl

theorem pointAt?_of_locate? {shape : Polyline Exact} {distance : Distance Exact}
    {location? : Option (Location Exact)} (found : shape.locate? distance.meters = .ok location?) :
    shape.pointAt? distance = .ok (location?.map (·.point)) := by
  rw [pointAt?, found]
  rfl

theorem directionAt?_of_locate? {shape : Polyline Exact} {distance : Distance Exact}
    {location? : Option (Location Exact)} (found : shape.locate? distance.meters = .ok location?) :
    shape.directionAt? distance = .ok ((location?.bind (·.line)).map Line.angle) := by
  rw [directionAt?, found]
  rfl

theorem Stored.exists_pointAt? {shape : Polyline Exact} (stored : shape.Stored)
    (distance : Distance Exact) : ∃ p, shape.pointAt? distance = .ok (some p) ∧ p.OnGrid := by
  obtain ⟨points⟩ := shape
  cases points with
  | nil => exact absurd rfl stored.present
  | cons p rest =>
    obtain ⟨line?, _, found⟩ := exists_locate?_of_onGrid stored.grid distance.meters
    exact ⟨_, pointAt?_of_locate? found, Point.onGrid_nearestTo _⟩

/-- Positions at the start or before it are the first point, and positions at the length or beyond
are the last one, with the directions of the first and the last segment that have a length. A shape
has no direction anywhere iff all its points are one. -/
theorem ends_found {shape : Polyline Exact} (stored : shape.Stored) :
    ∃ total, shape.length = .ok total ∧ ∀ distance,
      (distance ≤ .zero → shape.pointAt? distance = .ok shape.first? ∧
        shape.directionAt? distance = .ok (shape.longSegments.head?.map Line.angle)) ∧
      (total ≤ distance → shape.pointAt? distance = .ok shape.last? ∧
        shape.directionAt? distance = .ok (shape.longSegments.getLast?.map Line.angle)) ∧
      (shape.directionAt? distance = .ok none ↔
        ∀ p ∈ shape.points, ∀ q ∈ shape.points, p = q) := by
  obtain ⟨first, starts, _⟩ := stored.exists_first?
  obtain ⟨last, ends, _⟩ := stored.exists_last?
  refine ⟨_, shape.length_eq_ok, fun distance => ⟨fun behind => ?_, fun beyond => ?_, ?_⟩⟩
  · rw [Distance.le_iff, Distance.value_zero] at behind
    have found := locate?_start stored behind
    rw [starts] at found ⊢
    exact ⟨pointAt?_of_locate? found, directionAt?_of_locate? found⟩
  · have found := locate?_end stored (exactLength_lt_of_length_le beyond)
    rw [ends] at found ⊢
    exact ⟨pointAt?_of_locate? found, directionAt?_of_locate? found⟩
  · obtain ⟨angle?, found, directed⟩ := exists_directionAt? stored.present distance
    rw [← not_hasDirection_iff, ← directed, found, Except.ok.injEq, Option.not_isSome_iff_eq_none]

/-- A diagonal whose ends are repeated. -/
noncomputable def doubledDiagonal : Polyline Exact := ⟨[⟨0, 0⟩, ⟨0, 0⟩, ⟨1, 1⟩, ⟨1, 1⟩]⟩

theorem doubledDiagonal_stored : doubledDiagonal.Stored := by
  refine ⟨List.cons_ne_nil _ _, fun p member => ?_⟩
  simp only [doubledDiagonal, List.mem_cons, List.not_mem_nil, or_false] at member
  rcases member with rfl | rfl | rfl | rfl <;> exact Point.onGrid_ofNat _ _

theorem diagonal_ne : (⟨0, 0⟩ : Point Exact) ≠ ⟨1, 1⟩ := Point.ne_of_x (by simp)

theorem longSegments_doubledDiagonal : doubledDiagonal.longSegments = [⟨⟨0, 0⟩, ⟨1, 1⟩⟩] := by
  have apart := diagonal_ne
  simp [longSegments, segments, doubledDiagonal, apart]

theorem exactLength_doubledDiagonal : doubledDiagonal.exactLength.value = √2 := by
  rw [← exactTotal_longSegments, longSegments_doubledDiagonal]
  simp [exactTotal, Line.exactLength, Point.exactDistanceTo, Point.squaredDistanceTo, Scalar.square]
  norm_num

/-- The stored length falls short of the diagonal, and the last point is found there. -/
theorem ends_found_of_doubledDiagonal :
    doubledDiagonal.Stored ∧ ∃ total, doubledDiagonal.length = .ok total ∧
      total.meters.value < doubledDiagonal.exactLength.value ∧
      doubledDiagonal.pointAt? .zero = .ok (some ⟨0, 0⟩) ∧
      doubledDiagonal.pointAt? total = .ok (some ⟨1, 1⟩) ∧
      doubledDiagonal.directionAt? total = .ok (some (Line.mk ⟨0, 0⟩ ⟨1, 1⟩).angle) ∧
      doubledDiagonal.directionAt? total ≠ .ok none := by
  have above := Real.lt_sqrt_of_sq_lt (show (14142 / 10000 : ℝ) ^ 2 < 2 by norm_num)
  have below := (Real.sqrt_lt' (by norm_num)).mpr (show (2 : ℝ) < (14142.5 / 10000) ^ 2 by norm_num)
  have rounded : Scalar.trim doubledDiagonal.exactLength = ⟨14142 / 10000⟩ := by
    refine Exact.OnGrid.trim_eq_of_near ⟨14142, by simp⟩ ?_
    rw [exactLength_doubledDiagonal, abs_lt]
    constructor <;> linarith
  obtain ⟨total, measured, found⟩ := ends_found doubledDiagonal_stored
  have short : total.meters.value < doubledDiagonal.exactLength.value := by
    rw [length_eq_ok, rounded, Except.ok.injEq] at measured
    rw [← measured, exactLength_doubledDiagonal]
    exact above
  have atStart := (found .zero).1 (Distance.le_iff.mpr le_rfl)
  have atEnd := (found total).2.1 (Distance.le_iff.mpr le_rfl)
  rw [longSegments_doubledDiagonal] at atEnd
  refine ⟨doubledDiagonal_stored, total, measured, short, atStart.1, atEnd.1, atEnd.2, ?_⟩
  intro nowhere
  exact diagonal_ne ((found total).2.2.mp nowhere _ (.head _) _ (.tail _ (.tail _ (.head _))))

end RoadSketch.Polyline
