import RoadSketch.Polyline.Arclength
import RoadSketch.Proofs.Order
import RoadSketch.Proofs.Polyline.Thinning

/-!
# Pieces of polylines

A piece is cut out in one walk along the segments. What ends before the piece starts is dropped, and
then every vertex is taken over until one lies beyond the finish. If no vertex is further along than
the next, these are the vertices between the two positions, however the positions lie to each other
and to the ends of the polyline.

The points of a piece are put together one by one, leaving out every point that coincides with the
one before. So neighbours in a piece never coincide, unless all of it is one spot.

## Main result

`slice_takes_vertices`: the points of a piece.
-/
namespace RoadSketch.Polyline

variable {α : Type} [Scalar α]

/-! ### From one point through others -/

/-- The shape from one point through others to a last one, which is repeated if all is one spot. -/
def through (start : Point α) (inner : List (Point α)) (finish : Point α) : Polyline α :=
  let joined := empty.extend ⟨start :: inner ++ [finish]⟩
  if joined.points.length = 1 then joined.push finish else joined

/-- There are always two points, the first is the start, and the inner ones are some of those
between. -/
theorem through_ends (start finish : Point α) (inner : List (Point α)) :
    2 ≤ (through start inner finish).points.length ∧
      (through start inner finish).first? = some start ∧
      (through start inner finish).points.tail.dropLast.Sublist inner := by
  have first := (joined_extend (start :: inner ++ [finish])).first
  have within := extend_sublist empty (start :: inner ++ [finish])
  unfold through
  generalize empty.extend ⟨start :: inner ++ [finish]⟩ = joined at first within
  obtain ⟨points⟩ := joined
  cases points with
  | nil => cases first
  | cons p rest =>
    obtain rfl : p = start := Option.some.inj first
    have between : rest.dropLast.Sublist inner := by
      obtain ⟨front, back, rfl, inside, atEnd⟩ :=
        List.sublist_append_iff.mp (List.cons_sublist_cons.mp within)
      rcases List.sublist_singleton.mp atEnd with rfl | rfl
      · rw [List.append_nil]
        exact (List.dropLast_sublist front).trans inside
      · rw [List.dropLast_concat]
        exact inside
    cases rest with
    | nil => exact ⟨le_rfl, rfl, List.nil_sublist inner⟩
    | cons q rest => exact ⟨Nat.le_add_left 2 _, rfl, between⟩

/-- No two neighbours coincide, unless the two ends are all there is. -/
theorem through_changing (start finish : Point α) (inner : List (Point α)) :
    ((through start inner finish).points.IsChain fun p q => ¬p.coincides q) ∨
      (through start inner finish).points = [start, finish] ∧ start.coincides finish := by
  have whole := joined_extend (start :: inner ++ [finish])
  unfold through
  by_cases single : (empty.extend ⟨start :: inner ++ [finish]⟩).points.length = 1
  · rw [if_pos single]
    right
    obtain ⟨p, only⟩ := List.length_eq_one_iff.mp single
    obtain rfl : p = start := by
      have first := whole.first
      rw [first?, only] at first
      exact Option.some.inj first
    refine ⟨congrArg (· ++ [finish]) only, ?_⟩
    -- The last point was left out, so it coincides with the only one that is there.
    rw [extend_concat] at only
    rcases (empty.extend ⟨p :: inner⟩).append_cases finish with
      ⟨last, ends, same, kept⟩ | ⟨_, grown⟩
    · rw [kept] at only
      rw [last?, only] at ends
      cases ends
      exact same
    · rw [grown] at only
      have nothing : (empty.extend ⟨p :: inner⟩).points = [] :=
        List.length_eq_zero_iff.mp (by simpa [push] using congrArg List.length only)
      have first := (joined_extend (p :: inner)).first
      rw [first?, nothing] at first
      cases first
  · rw [if_neg single]
    exact .inl whole.changing

/-! ### Stations -/

/-- The ends of segments, each with the sum of the lengths up to there. -/
def stationsFrom (seen : α) : List (Line α) → List (Point α × α)
  | [] => []
  | line :: rest =>
    let next := seen + line.exactLength
    (line.finish, next) :: stationsFrom next rest

/-- The vertices behind the first one, each with how far along it is. -/
def stations (shape : Polyline α) : List (Point α × α) := stationsFrom 0 shape.segments

/-- No vertex is further along than the next. -/
def Ascending (shape : Polyline α) : Prop := (0 :: shape.stations.map Prod.snd).IsChain (· ≤ ·)

/-- The vertices behind the first one that are between two positions, or at the earlier one. -/
def verticesWithin (shape : Polyline α) (begin finish : Distance α) : List (Point α) :=
  (shape.stations.filter fun (_, along) =>
    decide (begin.meters ≤ along ∧ along < finish.meters)).map Prod.fst

omit [Scalar α] in
theorem map_finish_segments (shape : Polyline α) :
    shape.segments.map Line.finish = shape.points.tail := by
  obtain ⟨points⟩ := shape
  induction points with
  | nil => rfl
  | cons p rest ih =>
    cases rest with
    | nil => rfl
    | cons q rest => exact congrArg (List.cons q) ih

theorem map_fst_stationsFrom (seen : α) (lines : List (Line α)) :
    (stationsFrom seen lines).map Prod.fst = lines.map Line.finish := by
  induction lines generalizing seen with
  | nil => rfl
  | cons line rest ih => exact congrArg (List.cons line.finish) (ih _)

theorem map_fst_stations (shape : Polyline α) :
    shape.stations.map Prod.fst = shape.points.tail := by
  rw [stations, map_fst_stationsFrom, map_finish_segments]

theorem verticesWithin_sublist (shape : Polyline α) (begin finish : Distance α) :
    (shape.verticesWithin begin finish).Sublist shape.points.tail := by
  rw [← map_fst_stations]
  exact List.filter_sublist.map Prod.fst

/-! ### The walk along the segments -/

theorem stationsFrom_dropBefore (begin seen : α) (lines : List (Line α)) :
    stationsFrom (dropBefore begin seen lines).1 (dropBefore begin seen lines).2 =
      (stationsFrom seen lines).dropWhile fun station => decide (station.2 < begin) := by
  induction lines generalizing seen with
  | nil => rfl
  | cons line rest ih =>
    by_cases before : seen + line.exactLength < begin
    · simp [dropBefore, stationsFrom, before, ih]
    · simp [dropBefore, stationsFrom, before]

theorem appendBefore_eq_extend (finish seen : α) (shape : Polyline α) (lines : List (Line α)) :
    appendBefore finish shape seen lines =
      shape.extend ⟨((stationsFrom seen lines).takeWhile fun station =>
        decide (station.2 < finish)).map Prod.fst⟩ := by
  induction lines generalizing shape seen with
  | nil => rfl
  | cons line rest ih =>
    by_cases before : seen + line.exactLength < finish
    · simp [appendBefore, stationsFrom, before, ih, extend]
    · simp [appendBefore, stationsFrom, before, extend]

/-- The vertices that are passed before a position is reached. -/
def stationsBefore (shape : Polyline α) (bound : α) : List (Point α × α) :=
  shape.stations.takeWhile fun station => decide (station.2 < bound)

/-- The vertices from the first one on that is not before a position. -/
def stationsBeyond (shape : Polyline α) (bound : α) : List (Point α × α) :=
  shape.stations.dropWhile fun station => decide (station.2 < bound)

theorem stationsBefore_append_stationsBeyond (shape : Polyline α) (bound : α) :
    shape.stationsBefore bound ++ shape.stationsBeyond bound = shape.stations :=
  List.takeWhile_append_dropWhile

/-- The vertices that the walk takes over. -/
def walkedVertices (shape : Polyline α) (begin finish : Distance α) : List (Point α) :=
  ((shape.stationsBeyond begin.meters).takeWhile fun station =>
    decide (station.2 < finish.meters)).map Prod.fst

theorem walkedVertices_sublist (shape : Polyline α) (begin finish : Distance α) :
    (shape.walkedVertices begin finish).Sublist shape.points.tail := by
  rw [← map_fst_stations]
  exact ((List.takeWhile_sublist _).trans (List.dropWhile_sublist _)).map Prod.fst

theorem through_walkedVertices (shape : Polyline α) (begin finish : Distance α)
    (start last : Point α) : through start (shape.walkedVertices begin finish) last =
      let dropped := dropBefore begin.meters 0 shape.segments
      let piece := (appendBefore finish.meters ⟨[start]⟩ dropped.1 dropped.2).append last
      if piece.points.length = 1 then piece.push last else piece := by
  have joined : empty.extend ⟨start :: shape.walkedVertices begin finish ++ [last]⟩ =
      (appendBefore finish.meters ⟨[start]⟩ (dropBefore begin.meters 0 shape.segments).1
        (dropBefore begin.meters 0 shape.segments).2).append last := by
    rw [appendBefore_eq_extend, stationsFrom_dropBefore, extend_concat]
    rfl
  rw [through, joined]

/-- Where a piece starts. -/
def sliceStart? (shape : Polyline α) (begin : Distance α) : Checked α (Option (Point α)) :=
  if begin > .zero then shape.pointAt? begin else .ok shape.first?

/-- Where a piece ends, on a polyline of some length. -/
def sliceFinish? (shape : Polyline α) (total finish : Distance α) : Checked α (Option (Point α)) :=
  if finish < total then shape.pointAt? finish else .ok shape.last?

theorem exists_of_pointAt? {shape : Polyline α} {distance : Distance α} {found : Option (Point α)}
    (present : shape.points ≠ []) (located : shape.pointAt? distance = .ok found) :
    ∃ p, found = some p := by
  obtain ⟨points⟩ := shape
  cases points with
  | nil => exact absurd rfl present
  | cons p rest =>
    simp only [pointAt?, locate?, first?, List.head?_cons, Checked.bind_eq_ok,
      Checked.pure_eq_ok] at located
    obtain ⟨_, ⟨location, _, rfl⟩, rfl⟩ := located
    exact ⟨location.point, rfl⟩

theorem exists_of_sliceStart? {shape : Polyline α} {begin : Distance α} {found : Option (Point α)}
    (present : shape.points ≠ []) (starts : shape.sliceStart? begin = .ok found) :
    ∃ p, found = some p := by
  unfold sliceStart? at starts
  split at starts
  · exact exists_of_pointAt? present starts
  · cases starts
    exact ⟨_, List.head?_eq_some_head present⟩

theorem exists_of_sliceFinish? {shape : Polyline α} {total finish : Distance α}
    {found : Option (Point α)} (present : shape.points ≠ [])
    (ends : shape.sliceFinish? total finish = .ok found) : ∃ p, found = some p := by
  unfold sliceFinish? at ends
  split at ends
  · exact exists_of_pointAt? present ends
  · cases ends
    exact ⟨_, List.getLast?_eq_some_getLast present⟩

/-- Cutting out a piece is finding its two ends, and taking over vertices between them. -/
theorem slice_eq {shape : Polyline α} (several : 2 ≤ shape.points.length)
    (begin finish : Distance α) : shape.slice begin finish = do
      let total ← shape.length
      let start? ← shape.sliceStart? begin
      let last? ← shape.sliceFinish? total finish
      return (start?.bind fun start => last?.map fun last =>
        through start (shape.walkedVertices begin finish) last).getD empty := by
  simp only [through_walkedVertices]
  rw [slice, if_neg (Nat.not_lt.mpr several)]
  refine bind_congr fun total => ?_
  unfold sliceStart? sliceFinish?
  -- In the definition, what follows the choice of an end is written out for both ways to find it.
  by_cases behind : begin > .zero <;> by_cases before : finish < total <;>
  · simp only [behind, before, if_true, if_false]
    refine bind_congr fun start? => bind_congr fun last? => ?_
    cases start? <;> cases last? <;> rfl

/-- A piece runs from its start through the vertices that the walk takes over to its finish. -/
theorem slice_eq_ok {shape piece : Polyline α} {begin finish : Distance α}
    (several : 2 ≤ shape.points.length) : shape.slice begin finish = .ok piece ↔
      ∃ total start last, shape.length = .ok total ∧
        shape.sliceStart? begin = .ok (some start) ∧
        shape.sliceFinish? total finish = .ok (some last) ∧
        piece = through start (shape.walkedVertices begin finish) last := by
  have present : shape.points ≠ [] := List.ne_nil_of_length_pos (Nat.zero_lt_of_lt several)
  rw [slice_eq several]
  simp only [Checked.bind_eq_ok]
  constructor
  · rintro ⟨total, measured, start?, starts, last?, ends, made⟩
    obtain ⟨start, rfl⟩ := exists_of_sliceStart? present starts
    obtain ⟨last, rfl⟩ := exists_of_sliceFinish? present ends
    cases made
    exact ⟨total, start, last, measured, starts, ends, rfl⟩
  · rintro ⟨total, start, last, measured, starts, ends, rfl⟩
    exact ⟨total, measured, _, starts, _, ends, rfl⟩

/-! ### Vertices in order -/

section
variable [LawfulOrder α]

theorem Ascending.pairwise {shape : Polyline α} (ascending : shape.Ascending) :
    shape.stations.Pairwise fun s t => s.2 ≤ t.2 := by
  have inOrder := (List.isChain_iff_pairwise.mp ascending).of_cons
  exact List.pairwise_map.mp inOrder

theorem Ascending.isNumber {shape : Polyline α} (ascending : shape.Ascending)
    {station : Point α × α} (member : station ∈ shape.stations) : Scalar.isNumber station.2 := by
  have inOrder := List.rel_of_pairwise_cons (List.isChain_iff_pairwise.mp ascending)
    (List.mem_map_of_mem member)
  exact (LawfulOrder.isNumber_of_le _ _ inOrder).2

/-- In a row, what comes before the first that reaches a bound is all that is below it. -/
theorem takeWhile_eq_filter {row : List (Point α × α)}
    (inOrder : row.Pairwise fun s t => s.2 ≤ t.2) (bound : α) :
    row.takeWhile (fun station => decide (station.2 < bound)) =
      row.filter fun station => decide (station.2 < bound) := by
  induction row with
  | nil => rfl
  | cons station rest ih =>
    obtain ⟨first, later⟩ := List.pairwise_cons.mp inOrder
    by_cases below : station.2 < bound
    · simp [below, ih later]
    · have beyond : ∀ other ∈ rest, ¬other.2 < bound := fun other member further =>
        below (LawfulOrder.lt_of_le_of_lt _ _ _ (first other member) further)
      simpa [below] using beyond

theorem dropWhile_eq_filter {row : List (Point α × α)} {bound : α}
    (inOrder : row.Pairwise fun s t => s.2 ≤ t.2)
    (numbers : ∀ station ∈ row, Scalar.isNumber station.2) (number : Scalar.isNumber bound) :
    row.dropWhile (fun station => decide (station.2 < bound)) =
      row.filter fun station => decide (bound ≤ station.2) := by
  induction row with
  | nil => rfl
  | cons station rest ih =>
    obtain ⟨first, later⟩ := List.pairwise_cons.mp inOrder
    obtain ⟨here, others⟩ := List.forall_mem_cons.mp numbers
    have reaches := LawfulOrder.not_lt_iff station.2 bound here number
    by_cases below : station.2 < bound
    · have short : ¬bound ≤ station.2 := fun reached => reaches.mpr reached below
      simp [below, short, ih later others]
    · have reached := reaches.mp below
      have beyond : ∀ other ∈ rest, bound ≤ other.2 := fun other member =>
        LawfulOrder.le_trans reached (first other member)
      rw [List.dropWhile_cons_of_neg (by simpa using below), eq_comm, List.filter_eq_self]
      simpa [reached] using beyond

/-- The walk takes over the vertices between the two positions. -/
theorem walkedVertices_eq {shape : Polyline α} {begin finish : Distance α}
    (ascending : shape.Ascending) (number : Scalar.isNumber begin.meters) :
    shape.walkedVertices begin finish = shape.verticesWithin begin finish := by
  have inOrder := ascending.pairwise
  have remaining := inOrder.sublist
    (List.dropWhile_sublist fun station => decide (station.2 < begin.meters))
  rw [walkedVertices, stationsBeyond, takeWhile_eq_filter remaining,
    dropWhile_eq_filter inOrder (fun _ => ascending.isNumber) number, List.filter_filter]
  simp [verticesWithin, Bool.and_comm]

/-! ### Main result -/

/-- A piece of a polyline runs from the position where it begins through the vertices between its
two positions to the position where it finishes, and positions beyond the ends are taken to the
ends. So it has two points at least, its inner points are vertices in their order, and no two
neighbours coincide unless two points on one spot are all of it. -/
theorem slice_takes_vertices {shape piece : Polyline α} {begin finish : Distance α}
    (several : 2 ≤ shape.points.length) (ascending : shape.Ascending)
    (beginNumber : Scalar.isNumber begin.meters) (finishNumber : Scalar.isNumber finish.meters)
    (sliced : shape.slice begin finish = .ok piece) :
    ∃ total start last, shape.length = .ok total ∧
      (if begin ≤ .zero then .ok shape.first? else shape.pointAt? begin) = .ok (some start) ∧
      (if total ≤ finish then .ok shape.last? else shape.pointAt? finish) = .ok (some last) ∧
      piece = through start (shape.verticesWithin begin finish) last ∧
      2 ≤ piece.points.length ∧ piece.first? = some start ∧
      piece.points.tail.dropLast.Sublist shape.points.tail ∧
      ((piece.points.IsChain fun p q => ¬p.coincides q) ∨
        piece.points = [start, last] ∧ start.coincides last) := by
  obtain ⟨total, start, last, measured, starts, ends, rfl⟩ := (slice_eq_ok several).mp sliced
  have totalNumber := LawfulOrder.isNumber_of_ofMeters measured
  have beginOrder : ¬begin > .zero ↔ begin ≤ .zero :=
    LawfulOrder.not_lt_iff _ _ LawfulOrder.isNumber_zero beginNumber
  have finishOrder : ¬finish < total ↔ total ≤ finish :=
    LawfulOrder.not_lt_iff _ _ finishNumber totalNumber
  rw [walkedVertices_eq ascending beginNumber]
  obtain ⟨two, first, between⟩ := through_ends start last (shape.verticesWithin begin finish)
  refine ⟨total, start, last, measured, ?_, ?_, rfl, two, first, ?_, through_changing _ _ _⟩
  · rw [← starts, sliceStart?, ← ite_not (begin > _)]
    exact if_congr beginOrder.symm rfl rfl
  · rw [← ends, sliceFinish?, ← ite_not (finish < _)]
    exact if_congr finishOrder.symm rfl rfl
  · exact between.trans (shape.verticesWithin_sublist begin finish)

end

/-- A path that turns back, with a vertex that is repeated. -/
def hairpin : Polyline Float := ⟨[⟨0, 0⟩, ⟨3, 4⟩, ⟨3, 4⟩, ⟨6, 8⟩, ⟨6, 0⟩]⟩

/-- A piece that begins at the repeated vertex and finishes on the way back. -/
theorem slice_takes_vertices_of_hairpin :
    2 ≤ hairpin.points.length ∧ hairpin.Ascending ∧
    Scalar.isNumber (5 : Float) ∧ Scalar.isNumber (12 : Float) ∧
    ∃ piece start last, hairpin.slice ⟨5⟩ ⟨12⟩ = .ok piece ∧
      hairpin.pointAt? ⟨5⟩ = .ok (some start) ∧ hairpin.pointAt? ⟨12⟩ = .ok (some last) ∧
      piece = through start (hairpin.verticesWithin ⟨5⟩ ⟨12⟩) last ∧
      piece.points.tail.dropLast.Sublist hairpin.points.tail := by
  have ascending : hairpin.Ascending := by
    unfold Ascending
    decide +kernel
  have number : Scalar.isNumber (5 : Float) := by decide +kernel
  have further : Scalar.isNumber (12 : Float) := by decide +kernel
  refine ⟨by decide, ascending, number, further, ?_⟩
  have cut : (hairpin.slice ⟨5⟩ ⟨12⟩).isOk := by decide +kernel
  obtain ⟨piece, sliced⟩ := Checked.exists_of_isOk cut
  obtain ⟨total, start, last, measured, starts, ends, vertices, _, _, between, _⟩ :=
    slice_takes_vertices (by decide) ascending number further sliced
  have forward : ¬(⟨5⟩ : Distance Float) ≤ .zero := by decide +kernel
  have inside : ¬total ≤ ⟨12⟩ := by
    rw [length, Distance.ofMeters, if_pos (by decide +kernel)] at measured
    rw [← Except.ok.inj measured]
    decide +kernel
  rw [if_neg forward] at starts
  rw [if_neg inside] at ends
  exact ⟨piece, start, last, sliced, starts, ends, vertices, between⟩

end RoadSketch.Polyline
