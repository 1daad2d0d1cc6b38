import RoadSketch.Proofs.Network.Indices
import RoadSketch.Proofs.Polyline.Ends
import RoadSketch.Proofs.Polyline.Thinning
import RoadSketch.Proofs.Ribbon.Coherence

/-!
# Ends of connections

A connection, whether it is a smooth curve or a straight line, leads from the last point of one path
to the first point of another. A curve is sampled at its very ends, and what is left out of the
samples is only what repeats a point. It is a straight line between the same two points where a
path has no direction or too few points are asked for.

## Main result

`connections_bridge`: both ends of every curve and of every connection in a network, over exact
numbers.
-/
namespace RoadSketch

/-! ### Sampling -/

namespace Cubic

theorem blend_zero (a b c d : Exact) : blend 0 a b c d = a := by
  ext
  simp [blend]

theorem blend_one (a b c d : Exact) : blend 1 a b c d = d := by
  ext
  simp [blend]

/-- A sample in the stored precision. -/
noncomputable def stored (curve : Cubic Exact) (t : Exact) : Point Exact :=
  .nearest (blend t curve.start.x curve.startHandle.x curve.finishHandle.x curve.finish.x)
    (blend t curve.start.y curve.startHandle.y curve.finishHandle.y curve.finish.y)

theorem onGrid_stored (curve : Cubic Exact) (t : Exact) : (curve.stored t).OnGrid :=
  Point.onGrid_nearest _ _

theorem stored_zero {curve : Cubic Exact} (grid : curve.start.OnGrid) :
    curve.stored 0 = curve.start := by
  rw [stored, blend_zero, blend_zero, grid.nearest_eq]

theorem stored_one {curve : Cubic Exact} (grid : curve.finish.OnGrid) :
    curve.stored 1 = curve.finish := by
  rw [stored, blend_one, blend_one, grid.nearest_eq]

/-- The samples before any is left out. -/
noncomputable def samples (curve : Cubic Exact) (count : Nat) : List (Point Exact) :=
  (List.range count).map fun i => curve.stored (Scalar.ofNat i / Scalar.ofNat (count - 1))

theorem onGrid_of_mem_samples {curve : Cubic Exact} {count : Nat} {p : Point Exact}
    (member : p ∈ curve.samples count) : p.OnGrid := by
  obtain ⟨i, _, rfl⟩ := List.mem_map.mp member
  exact curve.onGrid_stored _

theorem head?_samples {curve : Cubic Exact} (grid : curve.start.OnGrid) {count : Nat}
    (many : 2 ≤ count) : (curve.samples count).head? = some curve.start := by
  have first : (List.range count).head? = some 0 := by
    rw [List.head?_range, if_neg (by omega)]
  have share : (Scalar.ofNat 0 / Scalar.ofNat (count - 1) : Exact) = 0 := by
    ext
    change ((0 : Nat) : ℝ) / ((count - 1 : Nat) : ℝ) = ((0 : Nat) : ℝ)
    rw [Nat.cast_zero, zero_div]
  rw [samples, List.head?_map, first, Option.map_some, share, stored_zero grid]

theorem getLast?_samples {curve : Cubic Exact} (grid : curve.finish.OnGrid) {count : Nat}
    (many : 2 ≤ count) : (curve.samples count).getLast? = some curve.finish := by
  have last : (List.range count).getLast? = some (count - 1) := by
    rw [List.getLast?_range, if_neg (by omega)]
  have share : (Scalar.ofNat (count - 1) / Scalar.ofNat (count - 1) : Exact) = 1 := by
    have several : ((count - 1 : Nat) : ℝ) ≠ 0 := by
      rw [Nat.cast_ne_zero]
      omega
    ext
    change ((count - 1 : Nat) : ℝ) / ((count - 1 : Nat) : ℝ) = ((1 : Nat) : ℝ)
    rw [div_self several, Nat.cast_one]
  rw [samples, List.getLast?_map, last, Option.map_some, share, stored_one grid]

theorem sample_eq_ok (curve : Cubic Exact) (count : Nat) :
    curve.sample count = .ok ((curve.samples count).foldl Polyline.append Polyline.empty) := by
  have each : ∀ i ∈ List.range count, curve.pointAt (Scalar.ofNat i / Scalar.ofNat (count - 1)) =
      .ok (curve.stored (Scalar.ofNat i / Scalar.ofNat (count - 1))) :=
    fun _ _ => Point.ofCoordinates_eq_ok _ _
  rw [sample, Checked.mapM_eq_map each]
  rfl

/-- Without a fault, sampling leaves a thinned out version of the samples. -/
theorem exists_sample (curve : Cubic Exact) (starts : curve.start.OnGrid)
    (ends : curve.finish.OnGrid) {count : Nat} (many : 2 ≤ count) :
    ∃ shape, curve.sample count = .ok shape ∧ shape.first? = some curve.start ∧
      shape.last? = some curve.finish ∧ shape.points.length ≤ count ∧
      shape.points.IsChain (· ≠ ·) := by
  obtain ⟨first, last, length, changing⟩ := Polyline.thinned_foldl
    fun p (member : p ∈ curve.samples count) => onGrid_of_mem_samples member
  refine ⟨_, curve.sample_eq_ok count, ?_, ?_, ?_, changing⟩
  · rw [first, head?_samples starts many]
  · rw [last, getLast?_samples ends many]
  · simpa [samples] using length

end Cubic

/-! ### Smooth curves -/

/-- A shape leads from the end of one path to the start of another. -/
structure Bridges (source target shape : Polyline Exact) : Prop where
  start : shape.first? = source.last?
  finish : shape.last? = target.first?

/-- The two paths have directions, and enough points are asked for. -/
def IsSampled (source target : Polyline Exact) (request : CurveRequest Exact) : Prop :=
  2 ≤ request.points ∧ source.HasDirection ∧ target.HasDirection

/-- What a curve between two paths is like, whether it is sampled or straight. -/
structure Curves (source target : Polyline Exact) (request : CurveRequest Exact)
    (curve : Polyline Exact) : Prop where
  bridges : Bridges source target curve
  length : curve.points.length ≤ max 2 request.points
  changing : IsSampled source target request → curve.points.IsChain (· ≠ ·)
  straight : ¬IsSampled source target request → curve = straightLink source target

theorem straightLink_eq {source target : Polyline Exact} {start finish : Point Exact}
    (starts : source.last? = some start) (ends : target.first? = some finish) :
    straightLink source target = ⟨[start, finish]⟩ := by
  rw [straightLink, starts, ends]
  rfl

theorem straightLink_bridges {source target : Polyline Exact} (left : source.Stored)
    (entered : target.Stored) : Bridges source target (straightLink source target) := by
  obtain ⟨start, starts, _⟩ := left.exists_last?
  obtain ⟨finish, ends, _⟩ := entered.exists_first?
  rw [straightLink_eq starts ends]
  exact ⟨starts.symm, ends.symm⟩

theorem exists_handleLength (request : CurveRequest Exact) (halfGap extension : Exact) :
    ∃ length, handleLength request halfGap extension = .ok length ∧ 0 ≤ length.meters.value := by
  refine ⟨_, Distance.ofMeters_eq_ok _, Exact.trim_nonneg ?_⟩
  rw [Exact.value_greater]
  exact le_max_of_le_right (by simp)

/-- What is not sampled is straight. -/
theorem curves_straight {source target : Polyline Exact} (left : source.Stored)
    (entered : target.Stored) {request : CurveRequest Exact}
    (straight : ¬IsSampled source target request) :
    Curves source target request (straightLink source target) := by
  refine ⟨straightLink_bridges left entered, ?_, fun sampled => absurd sampled straight, ?_⟩
  · obtain ⟨start, starts, _⟩ := left.exists_last?
    obtain ⟨finish, ends, _⟩ := entered.exists_first?
    rw [straightLink_eq starts ends]
    exact le_max_left 2 request.points
  · exact fun _ => rfl

/-- Between any two paths there is a curve. -/
theorem exists_smoothCurve {source target : Polyline Exact} (left : source.Stored)
    (entered : target.Stored) (request : CurveRequest Exact) :
    ∃ curve, smoothCurve source target request = .ok curve ∧
      Curves source target request curve := by
  obtain ⟨start, starts, startGrid⟩ := left.exists_last?
  obtain ⟨finish, ends, finishGrid⟩ := entered.exists_first?
  obtain ⟨startAngle?, leaving, startDirected⟩ :=
    Polyline.exists_directionAt? left.present ⟨Scalar.trim source.exactLength⟩
  obtain ⟨finishAngle?, entering, finishDirected⟩ :=
    Polyline.exists_directionAt? entered.present .zero
  simp only [smoothCurve, starts, ends, source.length_eq_ok, leaving, entering, Checked.ok_bind]
  by_cases sampled : IsSampled source target request
  · obtain ⟨startAngle, rfl⟩ := Option.isSome_iff_exists.mp (startDirected.mpr sampled.2.1)
    obtain ⟨finishAngle, rfl⟩ := Option.isSome_iff_exists.mp (finishDirected.mpr sampled.2.2)
    simp only [if_neg (Nat.not_lt.mpr sampled.1), Point.distanceTo, Distance.ofMeters_eq_ok,
      Checked.ok_bind]
    -- Where the handles lie does not matter, only that they are found.
    generalize (_ : Exact) / 2 = halfGap
    obtain ⟨startLength, startReached, forward⟩ :=
      exists_handleLength request halfGap request.extendStart
    have startLed := start.project_eq_ok startAngle forward
    generalize Point.nearest _ _ = startHandle at startLed
    obtain ⟨finishLength, finishReached, backward⟩ :=
      exists_handleLength request halfGap request.extendFinish
    have finishLed := finish.project_eq_ok finishAngle.opposite backward
    generalize Point.nearest _ _ = finishHandle at finishLed
    obtain ⟨curve, made, first, last, length, changing⟩ :=
      Cubic.exists_sample ⟨start, startHandle, finishHandle, finish⟩ startGrid finishGrid sampled.1
    refine ⟨curve, ?_, ?_⟩
    · simp only [startReached, startLed, finishReached, finishLed, made, Checked.ok_bind]
    · refine ⟨⟨?_, ?_⟩, ?_, fun _ => changing, fun straight => absurd sampled straight⟩
      · rw [first, starts]
      · rw [last, ends]
      · exact length.trans (le_max_right 2 request.points)
  · refine ⟨_, ?_, curves_straight left entered sampled⟩
    rw [straightLink_eq starts ends]
    split
    -- With both directions, what is missing is points to sample.
    next startAngle finishAngle =>
      have few : request.points < 2 := by
        refine Nat.not_le.mp fun many => sampled ⟨many, ?_, ?_⟩
        · exact startDirected.mp rfl
        · exact finishDirected.mp rfl
      exact if_pos few
    · rfl

/-! ### Connections of lanes -/

namespace Network

/-- All lanes have points, all in the stored precision. -/
def HasStoredLanes (network : Network Exact) : Prop :=
  ∀ edge ∈ network.edges, ∀ lane ∈ edge.lanes, lane.shape.Stored

variable {network : Network Exact}

theorem HasStoredLanes.stored_laneShape (stored : network.HasStoredLanes) {id : LaneId}
    {shape : Polyline Exact} (found : network.laneShape id = .ok shape) : shape.Stored := by
  simp only [laneShape, Checked.bind_eq_ok, Checked.pure_eq_ok, lane_eq_ok] at found
  obtain ⟨lane, ⟨edge, here, there⟩, rfl⟩ := found
  exact stored edge (List.mem_of_getElem? here) lane (List.mem_of_getElem? there)

/-- Without adjustments, lanes run as they are drawn. -/
theorem rawShape_nil (id : LaneId) : network.rawShape [] id = network.laneShape id := rfl

theorem exists_refresh (valid : network.Valid) (stored : network.HasStoredLanes)
    {old : Connections Exact} (known : network.HasLane old.source) :
    ∃ noted, network.refresh [] old = .ok noted := by
  have curves : network.CurvesFailOnly [] fun _ => False := by
    intro source target left entered leaving entering request
    obtain ⟨curve, made, _⟩ := exists_smoothCurve (stored.stored_laneShape leaving)
      (stored.stored_laneShape entering) request
    exact Checked.failsOnly_of_eq made
  -- Nothing fails with any kind of fault, so there is a result.
  refine (failsOnly_refresh curves (fun shape => ?_) valid known).exists_ok
  obtain ⟨lengths, measured⟩ := shape.exists_lengths
  exact Checked.failsOnly_of_eq (Ribbon.ofShape_eq_ok.mpr ⟨lengths, measured, rfl⟩)

/-- A connection bridges its lanes along a curve and along a straight line alike. -/
theorem connector_bridges (stored : network.HasStoredLanes) {source target : LaneId}
    {shape : Polyline Exact} (made : network.connector [] source target = .ok shape) :
    ∃ left entered, network.laneShape source = .ok left ∧ network.laneShape target = .ok entered ∧
      Bridges left entered shape := by
  simp only [connector, Checked.bind_eq_ok, rawShape_nil] at made
  obtain ⟨edge, _, next, _, through, _, made⟩ := made
  split at made
  · simp only [Checked.bind_eq_ok] at made
    obtain ⟨left, leaving, entered, entering, made⟩ := made
    obtain ⟨curve, drawn, curves⟩ := exists_smoothCurve (stored.stored_laneShape leaving)
      (stored.stored_laneShape entering) _
    rw [drawn, Except.ok.injEq] at made
    exact ⟨left, entered, leaving, entering, made ▸ curves.bridges⟩
  · simp only [Checked.bind_eq_ok, Checked.pure_eq_ok] at made
    obtain ⟨left, leaving, entered, entering, rfl⟩ := made
    exact ⟨left, entered, leaving, entering, straightLink_bridges (stored.stored_laneShape leaving)
      (stored.stored_laneShape entering)⟩

theorem shape_of_connectorRibbon {raw : RawShapes Exact} {source target : LaneId}
    {ribbon : Ribbon Exact} (made : network.connectorRibbon raw source target = .ok ribbon) :
    network.connector raw source target = .ok ribbon.shape := by
  simp only [connectorRibbon, Checked.bind_eq_ok, Ribbon.ofShape_eq_ok] at made
  obtain ⟨shape, drawn, lengths, _, rfl⟩ := made
  exact drawn

/-- Between any two paths that have points there is a curve, from the last point of the one to the
first point of the other. In a network without defects whose lanes have points, every connection
from a lane leads from the last point of that lane to the first point of the other one. -/
theorem connections_bridge :
    (∀ (source target : Polyline Exact) (request : CurveRequest Exact),
      source.Stored → target.Stored → ∃ curve,
        smoothCurve source target request = .ok curve ∧ Curves source target request curve) ∧
    ∀ network : Network Exact, network.defect? = none → network.HasStoredLanes → ∀ old,
      (network.HasLane old.source → ∃ noted, network.refresh [] old = .ok noted) ∧
      ∀ noted, network.refresh [] old = .ok noted →
        ∀ lane ribbon, noted.value.ribbon? lane = some ribbon → ∃ left entered,
          network.laneShape old.source = .ok left ∧ network.laneShape lane = .ok entered ∧
          Bridges left entered ribbon.shape := by
  refine ⟨fun source target request left entered => exists_smoothCurve left entered request, ?_⟩
  intro network sound stored old
  have valid := defect?_eq_none.mp sound
  refine ⟨exists_refresh valid stored, fun noted refreshed lane ribbon kept => ?_⟩
  have filled := filled_refresh valid refreshed
  have made := filled.complete.connector lane ribbon kept
  rw [filled.origin] at made
  exact connector_bridges stored (shape_of_connectorRibbon made)

/-- A road that goes on, through a junction large enough for a curve, to the left. -/
noncomputable def leftTurn : Network Exact where
  junctions := [⟨⟨0⟩, ⟨[⟨0, 0⟩]⟩⟩, ⟨⟨1⟩, ⟨[⟨10, 0⟩, ⟨20, 0⟩, ⟨20, 10⟩]⟩⟩]
  edges :=
    [⟨⟨0⟩, ⟨0⟩, ⟨1⟩, [⟨⟨[⟨0, 0⟩, ⟨10, 0⟩]⟩, 3⟩], none⟩,
      ⟨⟨1⟩, ⟨1⟩, ⟨0⟩, [⟨⟨[⟨20, 10⟩, ⟨20, 30⟩]⟩, 3⟩], none⟩]

theorem connections_bridge_of_leftTurn :
    (∃ curve, smoothCurve ⟨[⟨0, 0⟩, ⟨10, 0⟩]⟩ ⟨[⟨20, 10⟩, ⟨20, 30⟩]⟩
        (⟨5, false, 5, 5⟩ : CurveRequest Exact) = .ok curve ∧
      curve.first? = some ⟨10, 0⟩ ∧ curve.last? = some ⟨20, 10⟩ ∧
      curve.points.length ≤ 5 ∧ curve.points.IsChain (· ≠ ·)) ∧
    leftTurn.defect? = none ∧ leftTurn.HasStoredLanes ∧
    ∃ noted ribbon, leftTurn.refresh [] (.none ⟨⟨0⟩, 0⟩) = .ok noted ∧
      noted.value.ribbon? ⟨⟨1⟩, 0⟩ = some ribbon ∧
      ribbon.shape.first? = some ⟨10, 0⟩ ∧ ribbon.shape.last? = some ⟨20, 10⟩ := by
  have sound : leftTurn.defect? = none := rfl
  have path (i j m n : Nat) : Polyline.Stored
      ⟨[⟨Scalar.ofNat i, Scalar.ofNat j⟩, ⟨Scalar.ofNat m, Scalar.ofNat n⟩]⟩ := by
    refine ⟨List.cons_ne_nil _ _, fun p member => ?_⟩
    simp only [List.mem_cons, List.not_mem_nil, or_false] at member
    rcases member with rfl | rfl <;> exact ⟨Exact.onGrid_ofNat _, Exact.onGrid_ofNat _⟩
  have stored : leftTurn.HasStoredLanes := by
    intro edge member lane within
    simp only [leftTurn, List.mem_cons, List.not_mem_nil, or_false] at member
    rcases member with rfl | rfl
    · exact List.mem_singleton.mp within ▸ path 0 0 10 0
    · exact List.mem_singleton.mp within ▸ path 20 10 20 30
  have reached : leftTurn.Reaches ⟨⟨0⟩, 0⟩ ⟨⟨1⟩, 0⟩ := ⟨_, _, rfl, rfl, rfl, Nat.one_pos⟩
  have bridge := connections_bridge.2 leftTurn sound stored (.none ⟨⟨0⟩, 0⟩)
  obtain ⟨noted, refreshed⟩ := bridge.1 ⟨_, rfl, Nat.one_pos⟩
  have filled := filled_refresh (defect?_eq_none.mp sound) refreshed
  obtain ⟨ribbon, _, kept⟩ := filled.present ⟨⟨1⟩, 0⟩ reached
  obtain ⟨left, entered, leaving, entering, bridges⟩ := bridge.2 noted refreshed _ ribbon kept
  cases leaving
  cases entering
  refine ⟨?_, sound, stored, noted, ribbon, refreshed, kept, bridges.start, bridges.finish⟩
  have ahead : (⟨0, 0⟩ : Point Exact) ≠ ⟨10, 0⟩ := fun same => by
    simpa using congrArg (fun p : Point Exact => p.x.value) same
  have beyond : (⟨20, 10⟩ : Point Exact) ≠ ⟨20, 30⟩ := fun same => by
    simpa using congrArg (fun p : Point Exact => p.y.value) same
  obtain ⟨curve, made, curves⟩ := connections_bridge.1 _ _ (⟨5, false, 5, 5⟩ : CurveRequest Exact)
    (path 0 0 10 0) (path 20 10 20 30)
  have changing := curves.changing ⟨by decide, ⟨_, .head _, ahead⟩, ⟨_, .head _, beyond⟩⟩
  exact ⟨curve, made, curves.bridges.start, curves.bridges.finish, curves.length, changing⟩

end Network

end RoadSketch
