import RoadSketch.Proofs.Polyline.Ends
import RoadSketch.Proofs.Polyline.Slice

/-!
# Cutting polylines

Two pieces that meet at a cut have the point of the cut as an end. Glued together they are the
polyline again, with that point added unless a vertex is there. No vertex next to the cut or at the
far end gets lost or comes twice, although the cut is brought to the stored precision and the last
vertex may be further along than the stored length.

## Main result

`cuts_rejoin`: a piece over the whole length is the polyline, and so are, but for one point, the two
pieces on both sides of a cut.
-/
namespace RoadSketch.Polyline

/-! ### From one stored point through others -/

section
variable {start finish : Point Exact} {inner : List (Point Exact)}

/-- Gluing on what was put together gives what gluing on its points one by one does. -/
theorem extend_through (shape : Polyline Exact)
    (grid : ∀ q ∈ start :: inner ++ [finish], q.OnGrid) :
    shape.extend (through start inner finish) = shape.extend ⟨start :: inner ++ [finish]⟩ := by
  have joined := extend_extend shape grid
  rw [through]
  split
  · rw [push, extend_concat, joined, extend_concat, append_append_self]
  · exact joined

theorem append_through (start finish : Point Exact) (inner : List (Point Exact)) :
    (through start inner finish).append finish = through start inner finish := by
  rw [through]
  split
  · exact append_last (last?_push _ finish)
  · rw [extend_concat, append_append_self]

theorem mem_of_mem_through {q : Point Exact} (member : q ∈ (through start inner finish).points) :
    q ∈ start :: inner ++ [finish] := by
  have joined := (extend_sublist empty (start :: inner ++ [finish])).subset
  rw [through] at member
  split at member
  · rcases List.mem_append.mp member with inside | atEnd
    · exact joined inside
    · exact List.mem_append_right _ atEnd
  · exact joined member

theorem length_through_le (start finish : Point Exact) (inner : List (Point Exact)) :
    (through start inner finish).points.length ≤ inner.length + 2 := by
  have joined := (extend_sublist empty (start :: inner ++ [finish])).length_le
  rw [through]
  split
  next single =>
    rw [push, List.length_append, single, List.length_singleton]
    exact Nat.le_add_left 2 _
  next => simpa [empty] using joined

theorem sublist_through (grid : ∀ q ∈ start :: inner ++ [finish], q.OnGrid)
    {kept : List (Point Exact)} (changing : kept.IsChain (· ≠ ·))
    (within : kept.Sublist (start :: inner ++ [finish])) :
    kept.Sublist (through start inner finish).points := by
  have joined := sublist_extend onGrid_empty grid changing within
  rw [through]
  split
  · exact joined.trans (List.sublist_append_left _ [finish])
  · exact joined

/-- Going through some of the points to a last one, and from there through the others, loses none of
them. At most that one is added. -/
theorem through_extend {left : List (Point Exact)}
    (stored : ∀ q ∈ start :: inner ++ left, q.OnGrid) (grid : finish.OnGrid)
    (changing : (start :: inner ++ left).IsChain (· ≠ ·)) :
    (start :: inner ++ left).Sublist ((through start inner finish).extend ⟨left⟩).points ∧
      ((through start inner finish).extend ⟨left⟩).points.length ≤
        (start :: inner ++ left).length + 1 := by
  obtain ⟨behind, beyond⟩ := List.forall_mem_append.mp stored
  have around : ∀ q ∈ start :: inner ++ [finish], q.OnGrid :=
    List.forall_mem_append.mpr ⟨behind, List.forall_mem_singleton.mpr grid⟩
  constructor
  · have kept := sublist_through around (List.isChain_append.mp changing).1
      (List.sublist_append_left (start :: inner) [finish])
    apply sublist_extend _ beyond changing (kept.append (.refl left))
    intro q member
    exact around q (mem_of_mem_through member)
  · have glued := (extend_sublist (through start inner finish) left).length_le
    have front := length_through_le start finish inner
    simp only [List.length_append, List.length_cons] at glued ⊢
    omega

end

/-! ### Stations of stored points -/

/-- Only the last vertex is less than a step away from the end. -/
theorem along_le_of_mem_dropLast {seen : Exact} {lines : List (Line Exact)}
    (steps : ∀ line ∈ lines, 1 / 10000 ≤ line.exactLength.value) {station : Point Exact × Exact}
    (member : station ∈ (stationsFrom seen lines).dropLast) :
    station.2.value + 1 / 10000 ≤ seen.value + exactTotal lines := by
  induction lines generalizing seen with
  | nil => cases member
  | cons line rest ih =>
    obtain ⟨_, later⟩ := List.forall_mem_cons.mp steps
    rw [exactTotal_cons]
    cases rest with
    | nil => cases member
    | cons next others =>
      rcases List.mem_cons.mp member with rfl | further
      · have step := later next List.mem_cons_self
        have positive := exactTotal_nonneg others
        rw [exactTotal_cons]
        change seen.value + line.exactLength.value + 1 / 10000 ≤ _
        linarith
      · have bound := ih later further
        rw [Exact.value_add] at bound
        linarith

/-- If all vertices are before a position, so is the end. -/
theorem total_lt_of_stations {bound : ℝ} {seen : Exact} {lines : List (Line Exact)}
    (started : seen.value < bound)
    (before : ∀ station ∈ stationsFrom seen lines, station.2.value < bound) :
    seen.value + exactTotal lines < bound := by
  induction lines generalizing seen with
  | nil => simpa [exactTotal] using started
  | cons line rest ih =>
    obtain ⟨first, later⟩ := List.forall_mem_cons.mp before
    rw [exactTotal_cons, ← add_assoc]
    exact ih first later

/-- Stored points that never stay on one spot. -/
structure Moving (shape : Polyline Exact) : Prop where
  several : 2 ≤ shape.points.length
  grid : ∀ p ∈ shape.points, p.OnGrid
  changing : shape.points.IsChain (· ≠ ·)

theorem Moving.stored {shape : Polyline Exact} (moving : shape.Moving) : shape.Stored :=
  ⟨List.ne_nil_of_length_pos (Nat.zero_lt_of_lt moving.several), moving.grid⟩

theorem Moving.steps {shape : Polyline Exact} (moving : shape.Moving) :
    ∀ line ∈ shape.segments, 1 / 10000 ≤ line.exactLength.value := by
  intro line member
  apply (onGrid_of_mem_segments moving.grid member).le_exactLength
  obtain ⟨i, starts, finishes⟩ := getElem?_of_mem_segments member
  obtain ⟨_, start⟩ := List.getElem?_eq_some_iff.mp starts
  obtain ⟨inside, finish⟩ := List.getElem?_eq_some_iff.mp finishes
  rw [← start, ← finish]
  exact List.isChain_iff_getElem.mp moving.changing i inside

/-- All vertices but the last are before the stored length. -/
theorem Moving.before_end {shape : Polyline Exact} (moving : shape.Moving) {finish : Exact}
    (beyond : Scalar.trim shape.exactLength ≤ finish) {station : Point Exact × Exact}
    (member : station ∈ shape.stations.dropLast) : station.2 < finish := by
  have step := along_le_of_mem_dropLast moving.steps member
  have reached := exactLength_lt_of_length_le beyond
  rw [← exactLength_eq, Exact.value_literal, Nat.cast_zero, zero_add] at step
  rw [Exact.lt_iff]
  linarith

/-- Going on to the end takes over all vertices that are left, whether or not the last of them is
before the stored length. -/
theorem Moving.extend_to_end {shape : Polyline Exact} (moving : shape.Moving) {finish : Exact}
    (beyond : Scalar.trim shape.exactLength ≤ finish)
    {passed left : List (Point Exact × Exact)} {station : Point Exact × Exact}
    (split : shape.stations = passed ++ (left ++ [station])) (piece : Polyline Exact) :
    piece.extend ⟨((left ++ [station]).takeWhile fun other =>
        decide (other.2 < finish)).map Prod.fst ++ [station.1]⟩ =
      piece.extend ⟨(left ++ [station]).map Prod.fst⟩ := by
  have before : ∀ other ∈ left, decide (other.2 < finish) = true := by
    intro other member
    apply decide_eq_true
    apply moving.before_end beyond
    rw [split, ← List.append_assoc, List.dropLast_concat]
    exact List.mem_append_right passed member
  rw [List.takeWhile_append_of_pos before, List.map_append, List.map_append, List.map_singleton]
  by_cases inside : station.2 < finish
  · rw [List.takeWhile_cons_of_pos (by simpa using inside), List.takeWhile_nil, List.map_singleton,
      extend_concat, extend_concat, append_append_self]
  · rw [List.takeWhile_cons_of_neg (by simpa using inside), List.map_nil, List.append_nil]

/-! ### Cutting and gluing -/

section
variable {shape : Polyline Exact}

theorem Moving.exists_stations (moving : shape.Moving) :
    ∃ left station, shape.stations = left ++ [station] := by
  rcases List.eq_nil_or_concat' shape.stations with nothing | ⟨left, station, split⟩
  · have vertices := congrArg List.length shape.map_fst_stations
    have several := moving.several
    rw [nothing, List.map_nil, List.length_nil, List.length_tail] at vertices
    omega
  · exact ⟨left, station, split⟩

/-- The last vertex is the last point. -/
theorem last?_of_stations {passed : List (Point Exact × Exact)} {station : Point Exact × Exact}
    (split : shape.stations = passed ++ [station]) : shape.last? = some station.1 := by
  have vertices := congrArg List.getLast? shape.map_fst_stations
  rw [split, List.map_append, List.map_singleton, List.getLast?_concat,
    List.getLast?_tail] at vertices
  split at vertices
  · cases vertices
  · exact vertices.symm

/-- No vertex is before the start. -/
theorem stationsBeyond_start {begin : Exact} (behind : begin.value ≤ 0) :
    shape.stationsBeyond begin = shape.stations := by
  rw [stationsBeyond, stations]
  cases shape.segments with
  | nil => rfl
  | cons line rest =>
    have forward := line.exactLength_nonneg
    have reached : ¬(0 + line.exactLength : Exact) < begin := by
      simp only [Exact.lt_iff, Exact.value_add, Exact.value_literal, Nat.cast_zero, not_lt]
      linarith
    exact List.dropWhile_cons_of_neg (by simpa using reached)

/-- A piece over the whole length is the polyline. -/
theorem Moving.slice_whole (moving : shape.Moving) {begin finish : Distance Exact}
    (behind : begin ≤ .zero) (beyond : Scalar.trim shape.exactLength ≤ finish.meters) :
    shape.slice begin finish = .ok shape := by
  obtain ⟨left, station, split⟩ := moving.exists_stations
  obtain ⟨first, starts, _⟩ := moving.stored.exists_first?
  have ends := last?_of_stations split
  have whole : first :: shape.points.tail = shape.points := List.cons_head?_tail starts
  have glued : empty.extend ⟨first :: shape.walkedVertices begin finish ++ [station.1]⟩ = shape :=
    calc empty.extend ⟨first :: shape.walkedVertices begin finish ++ [station.1]⟩
        = (empty.append first).extend ⟨shape.walkedVertices begin finish ++ [station.1]⟩ := rfl
      _ = (empty.append first).extend ⟨shape.stations.map Prod.fst⟩ := by
        rw [Distance.le_iff, Distance.value_zero] at behind
        have all : shape.stations = [] ++ (left ++ [station]) := split
        rw [walkedVertices, stationsBeyond_start behind, split]
        exact moving.extend_to_end beyond all _
      _ = empty.extend ⟨first :: shape.points.tail⟩ := by
        rw [map_fst_stations]
        rfl
      _ = shape := by
        rw [whole]
        exact extend_of_isChain moving.grid moving.changing
  refine (slice_eq_ok moving.several).mpr
    ⟨_, first, station.1, shape.length_eq_ok, ?_, ?_, ?_⟩
  · rw [sliceStart?, if_neg, starts]
    exact not_lt (α := ℝ).mpr behind
  · rw [sliceFinish?, if_neg, ends]
    exact not_lt (α := ℝ).mpr beyond
  · have several := moving.several
    rw [through, glued, if_neg (by omega)]

/-- A cut beyond all vertices is at the last one. -/
theorem Moving.pointAt?_of_stationsBeyond (moving : shape.Moving) {cut : Distance Exact}
    (forward : .zero < cut) (nothing : shape.stationsBeyond cut.meters = []) :
    shape.pointAt? cut = .ok shape.last? := by
  have started : (0 : Exact).value < cut.meters.value := forward
  have before : ∀ station ∈ shape.stations, station.2.value < cut.meters.value := by
    simpa [stationsBeyond] using nothing
  have total := total_lt_of_stations started before
  have reached : shape.exactLength.value < cut.meters.value + 1 / 20000 := by
    rw [← exactLength_eq, Exact.value_literal, Nat.cast_zero, zero_add] at total
    linarith
  obtain ⟨last, ends, _⟩ := moving.stored.exists_last?
  have found := pointAt?_of_locate? (locate?_end moving.stored reached)
  rw [ends] at found ⊢
  exact found

variable {cut total : Distance Exact} {first p last : Point Exact}

theorem Moving.slice_before (moving : shape.Moving) (measured : shape.length = .ok total)
    (before : cut < total) (starts : shape.first? = some first)
    (located : shape.pointAt? cut = .ok (some p)) : shape.slice .zero cut =
      .ok (through first ((shape.stationsBefore cut.meters).map Prod.fst) p) := by
  refine (slice_eq_ok moving.several).mpr ⟨total, first, p, measured, ?_, ?_, ?_⟩
  · rw [sliceStart?, if_neg, starts]
    exact lt_irrefl (α := ℝ) _
  · rw [sliceFinish?, if_pos before, located]
  · rw [walkedVertices, stationsBeyond_start Distance.value_zero.le, stationsBefore]

theorem Moving.slice_beyond (moving : shape.Moving) (measured : shape.length = .ok total)
    (forward : .zero < cut) (located : shape.pointAt? cut = .ok (some p))
    (ends : shape.last? = some last) :
    shape.slice cut total = .ok (through p (shape.walkedVertices cut total) last) := by
  refine (slice_eq_ok moving.several).mpr ⟨total, p, last, measured, ?_, ?_, rfl⟩
  · rw [sliceStart?, if_pos forward, located]
  · rw [sliceFinish?, if_neg, ends]
    exact lt_irrefl (α := ℝ) _

theorem Moving.onGrid_beyond (moving : shape.Moving) (grid : p.OnGrid)
    (ends : shape.last? = some last) :
    ∀ q ∈ p :: shape.walkedVertices cut total ++ [last], q.OnGrid := by
  intro q member
  simp only [List.cons_append, List.mem_cons, List.mem_append, List.not_mem_nil,
    or_false] at member
  rcases member with rfl | inside | rfl
  · exact grid
  · apply moving.grid
    exact List.mem_of_mem_tail ((shape.walkedVertices_sublist cut total).subset inside)
  · exact moving.grid q (List.mem_of_getLast? ends)

/-- Whatever ends with the point of the cut, gluing on the piece beyond it adds the vertices that are
left there. -/
theorem Moving.extend_beyond (moving : shape.Moving) (measured : shape.length = .ok total)
    (forward : .zero < cut) (located : shape.pointAt? cut = .ok (some p)) (grid : p.OnGrid)
    (ends : shape.last? = some last) {piece : Polyline Exact} (met : piece.append p = piece) :
    piece.extend (through p (shape.walkedVertices cut total) last) =
      piece.extend ⟨(shape.stationsBeyond cut.meters).map Prod.fst⟩ := by
  have beyond : Scalar.trim shape.exactLength ≤ total.meters := by
    rw [length_eq_ok, Except.ok.injEq] at measured
    rw [← measured]
    exact le_refl (α := ℝ) _
  have start : piece.extend ⟨p :: shape.walkedVertices cut total ++ [last]⟩ =
      piece.extend ⟨shape.walkedVertices cut total ++ [last]⟩ :=
    congrArg (fun joined : Polyline Exact => joined.extend _) met
  have parts := shape.stationsBefore_append_stationsBeyond cut.meters
  rw [extend_through piece (moving.onGrid_beyond grid ends), start, walkedVertices]
  rcases List.eq_nil_or_concat' (shape.stationsBeyond cut.meters) with
    nothing | ⟨left, station, rest⟩
  · -- No vertex is left, so the cut is at the last point, which is there already.
    have here := moving.pointAt?_of_stationsBeyond forward nothing
    rw [located, ends, Except.ok.injEq, Option.some.injEq] at here
    rw [nothing, ← here]
    exact met
  · rw [rest] at parts ⊢
    have atLast := last?_of_stations (parts.symm.trans (List.append_assoc ..).symm)
    rw [ends, Option.some.injEq] at atLast
    rw [atLast]
    exact moving.extend_to_end beyond parts.symm piece

end

/-- A piece over the whole length is the polyline. The two pieces on both sides of any cut, glued
together, have all its points in their order, and one point more at most. -/
theorem cuts_rejoin {shape : Polyline Exact} (moving : shape.Moving) :
    ∃ total, shape.length = .ok total ∧
      (∀ begin finish, begin ≤ .zero → total ≤ finish → shape.slice begin finish = .ok shape) ∧
      ∀ cut, .zero < cut → cut < total → ∃ front back,
        shape.slice .zero cut = .ok front ∧ shape.slice cut total = .ok back ∧
        shape.points.Sublist (front.extend back).points ∧
        (front.extend back).points.length ≤ shape.points.length + 1 := by
  refine ⟨_, shape.length_eq_ok, fun _ _ behind beyond => moving.slice_whole behind beyond, ?_⟩
  intro cut forward before
  have measured := shape.length_eq_ok
  obtain ⟨first, starts, _⟩ := moving.stored.exists_first?
  obtain ⟨last, ends, _⟩ := moving.stored.exists_last?
  obtain ⟨p, located, grid⟩ := moving.stored.exists_pointAt? cut
  refine ⟨_, _, moving.slice_before measured before starts located,
    moving.slice_beyond measured forward located ends, ?_⟩
  rw [moving.extend_beyond measured forward located grid ends (append_through first p _)]
  have points : first :: ((shape.stationsBefore cut.meters).map Prod.fst ++
      (shape.stationsBeyond cut.meters).map Prod.fst) = shape.points := by
    rw [← List.map_append, stationsBefore_append_stationsBeyond, map_fst_stations]
    exact List.cons_head?_tail starts
  generalize (shape.stationsBefore cut.meters).map Prod.fst = passed at points ⊢
  generalize (shape.stationsBeyond cut.meters).map Prod.fst = left at points ⊢
  have changing := moving.changing
  have stored := moving.grid
  rw [← points, ← List.cons_append] at changing stored ⊢
  exact through_extend stored grid changing

/-- Two segments, of five and of four meters. -/
noncomputable def sharpTurn : Polyline Exact := ⟨[⟨0, 0⟩, ⟨3, 4⟩, ⟨3, 0⟩]⟩

/-- A cut shortly before the corner. -/
theorem cuts_rejoin_of_sharpTurn :
    sharpTurn.Moving ∧ sharpTurn.length = .ok ⟨9⟩ ∧
    sharpTurn.slice (.stored (-1)) ⟨10⟩ = .ok sharpTurn ∧ ∃ front back,
      sharpTurn.slice .zero (.stored 49999) = .ok front ∧
      sharpTurn.slice (.stored 49999) ⟨9⟩ = .ok back ∧
      sharpTurn.points.Sublist (front.extend back).points ∧
      (front.extend back).points.length ≤ 4 := by
  have moving : sharpTurn.Moving := by
    refine ⟨by simp [sharpTurn], fun p member => ?_, ?_⟩
    · simp only [sharpTurn, List.mem_cons, List.not_mem_nil, or_false] at member
      rcases member with rfl | rfl | rfl <;> exact Point.onGrid_ofNat _ _
    · have ahead : (⟨0, 0⟩ : Point Exact) ≠ ⟨3, 4⟩ := Point.ne_of_x (by simp)
      have back : (⟨3, 4⟩ : Point Exact) ≠ ⟨3, 0⟩ := Point.ne_of_y (by simp)
      exact .cons_cons ahead (.cons_cons back (.singleton _))
  have whole : sharpTurn.exactLength = 9 := by
    ext
    rw [exactLength_eq]
    simp [exactTotal, segments, sharpTurn, Line.exactLength, Point.exactDistanceTo,
      Point.squaredDistanceTo, Scalar.square]
    norm_num
  have measured : sharpTurn.length = .ok ⟨9⟩ := by
    rw [length, whole]
    exact Distance.ofMeters_of_onGrid (Exact.onGrid_ofNat 9)
  obtain ⟨total, length, uncut, rejoined⟩ := cuts_rejoin moving
  obtain rfl : total = ⟨9⟩ := Except.ok.inj (length.symm.trans measured)
  refine ⟨moving, measured, uncut _ _ ?_ ?_, rejoined _ ?_ ?_⟩
  all_goals simp [Distance.stored]
  all_goals norm_num

end RoadSketch.Polyline
