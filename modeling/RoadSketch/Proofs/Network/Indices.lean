import RoadSketch.Proofs.Faults
import RoadSketch.Proofs.Network.Reach

/-!
# Looking nothing up that is missing

Finding connections and outlining edges goes from names to names: from an edge to the junction it
ends at, to the edges that leave there, to their lanes and to the shapes of these. In a network
without defects every name that is come across leads to something that is stored.

## Main result

`Network.never_missingItem`: from a lane that is there, neither finding its connections, nor asking
for the geometry of those, nor outlining its edge looks anything up that is missing.
-/
namespace RoadSketch

open Checked

variable {α : Type}

namespace Network

/-- There is such a lane. -/
def HasLane (network : Network α) (id : LaneId) : Prop :=
  ∃ edge, network.edges[id.edge.index]? = some edge ∧ id.index < edge.lanes.length

variable {network : Network α}

theorem HasLane.exists_lane {id : LaneId} (known : network.HasLane id) :
    ∃ lane, network.lane id = .ok lane := by
  obtain ⟨edge, here, within⟩ := known
  exact ⟨edge.lanes[id.index], lane_eq_ok.mpr ⟨edge, here, List.getElem?_eq_getElem within⟩⟩

theorem HasLane.exists_laneShape {id : LaneId} (known : network.HasLane id) :
    ∃ shape, network.laneShape id = .ok shape := by
  obtain ⟨lane, found⟩ := known.exists_lane
  exact ⟨lane.shape, by simp [laneShape, found]⟩

theorem HasLane.exists_laneWidth {id : LaneId} (known : network.HasLane id) :
    ∃ width, network.laneWidth id = .ok width := by
  obtain ⟨lane, found⟩ := known.exists_lane
  exact ⟨lane.width, by simp [laneWidth, found]⟩

theorem HasLane.exists_rawShape {id : LaneId} (known : network.HasLane id) (raw : RawShapes α) :
    ∃ shape, network.rawShape raw id = .ok shape := by
  unfold rawShape
  split
  next _ shape _ => exact ⟨shape, rfl⟩
  · exact known.exists_laneShape

theorem hasLane_of_mem_lanesOf {id : EdgeId} {lanes : List LaneId}
    (listed : network.lanesOf id = .ok lanes) {lane : LaneId} (member : lane ∈ lanes) :
    network.HasLane lane := ((mem_lanesOf listed).mp member).2

theorem Valid.exists_of_mem_outgoing (valid : network.Valid) {junction : JunctionId} {id : EdgeId}
    (member : id ∈ network.outgoing junction) : ∃ edge, network.edge id = .ok edge := by
  obtain ⟨edge, here, _⟩ := valid.mem_outgoing.mp member
  exact ⟨edge, edge_eq_ok.mpr here⟩

theorem exists_ribbons (found : Connections α) {lanes : List LaneId}
    (listed : ∀ lane ∈ lanes, lane ∈ found.targets) :
    ∃ ribbons, lanes.mapM found.ribbon = .ok ribbons := by
  refine (FailsOnly.mapM fun lane member => ?_).exists_ok
  obtain ⟨ribbon, kept⟩ := Connections.exists_ribbon (listed lane member)
  exact failsOnly_of_eq kept

variable [Scalar α]

/-! ### Connections -/

section
variable {kind : Fault α → Prop} {raw : RawShapes α} {source : LaneId}

/-- Curves between lanes of the network stop, if at all, with a fault of some kind. -/
def CurvesFailOnly (network : Network α) (raw : RawShapes α) (kind : Fault α → Prop) : Prop :=
  ∀ source target left entered, network.rawShape raw source = .ok left →
    network.rawShape raw target = .ok entered →
    ∀ request, FailsOnly kind (smoothCurve left entered request)

theorem failsOnly_connectorShape (curves : network.CurvesFailOnly raw kind)
    (known : network.HasLane source) {target : LaneId} (there : network.HasLane target)
    (plan : CurvePlan α) (lanes : Nat) :
    FailsOnly kind (network.connectorShape raw plan source lanes target) := by
  unfold connectorShape
  split
  · obtain ⟨shape, found⟩ := known.exists_rawShape raw
    obtain ⟨other, followed⟩ := there.exists_rawShape raw
    rw [found, followed, ok_bind, ok_bind]
    exact curves _ _ _ _ found followed _
  · obtain ⟨shape, found⟩ := known.exists_laneShape
    obtain ⟨other, followed⟩ := there.exists_laneShape
    rw [found, followed, ok_bind, ok_bind]
    exact failsOnly_ok _

theorem failsOnly_connectEdge (curves : network.CurvesFailOnly raw kind)
    (ribbons : ∀ shape : Polyline α, FailsOnly kind (Ribbon.ofShape shape))
    (known : network.HasLane source) (plan : CurvePlan α) (found : Connections α) {id : EdgeId}
    {edge : Edge α} (here : network.edge id = .ok edge) :
    FailsOnly kind (network.connectEdge raw plan source found id) := by
  have listed : network.lanesOf id = .ok ((List.range edge.lanes.length).map (⟨id, ·⟩)) :=
    lanesOf_eq_ok.mpr ⟨edge, edge_eq_ok.mp here, rfl⟩
  have counted : network.laneCount id = .ok edge.lanes.length :=
    laneCount_eq_ok.mpr ⟨edge, edge_eq_ok.mp here, rfl⟩
  rw [connectEdge, counted, listed, ok_bind, ok_bind]
  refine FailsOnly.foldlM fun found target member => ?_
  have there : network.HasLane target := hasLane_of_mem_lanesOf listed member
  refine (failsOnly_connectorShape curves known there plan _).bind fun shape _ => ?_
  exact (ribbons shape).bind fun ribbon _ => failsOnly_ok _

/-- In a valid network, finding the connections of a lane that is there fails in no other way than
curves and ribbons do. -/
theorem failsOnly_refresh (curves : network.CurvesFailOnly raw kind)
    (ribbons : ∀ shape : Polyline α, FailsOnly kind (Ribbon.ofShape shape))
    (valid : network.Valid) {old : Connections α} (known : network.HasLane old.source) :
    FailsOnly kind (network.refresh raw old) := by
  obtain ⟨edge, here, within⟩ := id known
  obtain ⟨through, ends⟩ := valid.exists_target here
  have leads : network.target? old.source.edge = some edge.target := by simp [target?, here]
  simp only [refresh, connections, leads, connectThrough,
    curvePlan_eq_ok (edge_eq_ok.mpr here) ends, ok_bind]
  refine FailsOnly.bind (FailsOnly.foldlM fun found id member => ?_) fun _ _ => failsOnly_ok _
  obtain ⟨next, there⟩ := valid.exists_of_mem_outgoing member
  exact failsOnly_connectEdge curves ribbons known _ found there

end

theorem isGeometric_refresh (valid : network.Valid) (raw : RawShapes α) {old : Connections α}
    (known : network.HasLane old.source) : IsGeometric (network.refresh raw old) := by
  have curves : network.CurvesFailOnly raw Fault.IsGeometric :=
    fun _ _ left entered _ _ request => isGeometric_smoothCurve left entered request
  exact failsOnly_refresh curves Ribbon.isGeometric_ofShape valid known

/-! ### Outlines -/

theorem isGeometric_laneHalfWidth (settings : Settings α) {id : LaneId}
    (known : network.HasLane id) :
    IsGeometric (Contour.laneHalfWidth settings network id) := by
  obtain ⟨width, found⟩ := known.exists_laneWidth
  rw [Contour.laneHalfWidth, found]
  exact failsOnly_ok _

theorem isGeometric_lanePair (outline : OutlineKind) (settings : Settings α) {top bottom : LaneId}
    (above : network.HasLane top) (below : network.HasLane bottom) (joinStarts joinEnds : Bool) :
    IsGeometric
      (Contour.lanePair outline settings network top bottom joinStarts joinEnds) := by
  obtain ⟨topShape, foundTop⟩ := above.exists_laneShape
  obtain ⟨bottomShape, foundBottom⟩ := below.exists_laneShape
  rw [Contour.lanePair, foundTop, foundBottom, ok_bind]
  refine (DashedLine.isGeometric_ofShape settings topShape false).bind fun top _ => ?_
  rw [ok_bind]
  refine (DashedLine.isGeometric_ofShape settings bottomShape false).bind fun bottom _ => ?_
  refine (isGeometric_laneHalfWidth settings above).bind fun width _ => ?_
  refine (top.isGeometric_shift width).bind fun top _ => ?_
  refine (isGeometric_laneHalfWidth settings below).bind fun width _ => ?_
  refine (bottom.isGeometric_shift _).bind fun bottom _ => ?_
  exact (DashedLine.isGeometric_connectors ..).bind fun _ _ => failsOnly_ok _

/-- Outlining an edge that is there fails in no other way than the geometry does. -/
theorem isGeometric_edge (outline : OutlineKind) (settings : Settings α) (options : EditorOptions)
    {id : EdgeId} {edge : Edge α} (here : network.edge id = .ok edge) (joinStarts joinEnds : Bool) :
    IsGeometric
      (Contour.edge outline settings options network id joinStarts joinEnds) := by
  obtain ⟨lanes, listed⟩ : ∃ lanes, network.lanesOf id = .ok lanes :=
    ⟨_, lanesOf_eq_ok.mpr ⟨edge, edge_eq_ok.mp here, rfl⟩⟩
  rw [Contour.edge, listed, ok_bind]
  match lanes, listed with
  | [], _ => exact failsOnly_ok _
  | [lane], listed =>
    have known : network.HasLane lane := hasLane_of_mem_lanesOf listed List.mem_cons_self
    obtain ⟨shape, found⟩ := known.exists_laneShape
    dsimp only
    rw [found, ok_bind]
    refine (isGeometric_laneHalfWidth settings known).bind fun width _ => ?_
    exact (Contour.isGeometric_path ..).bind fun _ _ => failsOnly_ok _
  | first :: second :: rest, listed =>
    have known : network.HasLane first := hasLane_of_mem_lanesOf listed List.mem_cons_self
    have other : network.HasLane (rest.getLastD second) :=
      hasLane_of_mem_lanesOf listed (List.mem_cons_of_mem _ List.getLastD_mem_cons)
    cases options.drivingSide with
    | left =>
      exact (isGeometric_lanePair outline settings other known ..).bind fun _ _ => failsOnly_ok _
    | right =>
      exact (isGeometric_lanePair outline settings known other ..).bind fun _ _ => failsOnly_ok _

/-! ### Whole runs -/

/-- In a network without defects, from any lane of any edge: finding its connections, whatever they
were before, asking for the geometry of those found, in any order and however often, and outlining
the edge in any way never look up a junction, an edge or a lane that is missing. -/
theorem never_missingItem (sound : network.defect? = none) {id : EdgeId}
    (known : id.index < network.edges.length) :
    (∀ index < network.edges[id.index].lanes.length, ∀ raw old, old.source = ⟨id, index⟩ →
      network.refresh raw old ≠ .error .missingItem ∧
      ∀ noted, network.refresh raw old = .ok noted →
        ∀ lanes : List LaneId, (∀ lane ∈ lanes, lane ∈ noted.value.targets) →
          ∃ ribbons, lanes.mapM noted.value.ribbon = .ok ribbons) ∧
    ∀ outline settings options joinStarts joinEnds,
      Contour.edge outline settings options network id joinStarts joinEnds ≠
        .error .missingItem := by
  have here := List.getElem?_eq_getElem known
  refine ⟨fun index within raw old starts => ⟨?_, fun noted _ lanes => ?_⟩, ?_⟩
  · have there : network.HasLane old.source := by
      rw [starts]
      exact ⟨_, here, within⟩
    exact ne_missingItem (isGeometric_refresh (defect?_eq_none.mp sound) raw there)
  · exact exists_ribbons noted.value
  · intro outline settings options joinStarts joinEnds
    exact ne_missingItem (isGeometric_edge outline settings options (edge_eq_ok.mpr here) _ _)

theorem never_missingItem_of_crossing : crossing.defect? = none ∧ 0 < crossing.edges.length ∧
    Contour.edge .select .standard .standard crossing ⟨0⟩ true true ≠ .error .missingItem ∧
    ∃ noted, crossing.refresh [] (Connections.none ⟨⟨0⟩, 0⟩) = .ok noted ∧
      ∃ ribbons, noted.value.targets.mapM noted.value.ribbon = .ok ribbons := by
  have sound : crossing.defect? = none := by decide
  have known : (⟨0⟩ : EdgeId).index < crossing.edges.length := by decide
  have safe := never_missingItem sound known
  obtain ⟨noted, found⟩ :
      ∃ noted, crossing.refresh [] (Connections.none ⟨⟨0⟩, 0⟩) = .ok noted :=
    Checked.exists_of_isOk (by decide +kernel)
  have listed := (safe.1 0 Nat.one_pos [] (Connections.none ⟨⟨0⟩, 0⟩) rfl).2 noted found
  exact ⟨sound, known, safe.2 _ _ _ _ _, noted, found, listed _ fun _ here => here⟩

end Network

end RoadSketch
