import RoadSketch.Double
import RoadSketch.Proofs.Network.ConnectionMap
import RoadSketch.Proofs.Network.Valid

/-!
# Lanes that can be reached

From a lane, traffic goes on to the lanes of the edges that leave the junction its edge ends at. In
a valid network the connections found for a lane are those to the lanes it reaches, no more and no
less, each along the shape that the two lanes and the junction determine.
-/
namespace RoadSketch

variable {α : Type} [Scalar α]

namespace Network

/-- Can traffic go on from one lane to another? The edge of the latter has to start where the edge
of the former ends, and to have that lane. -/
def Reaches (network : Network α) (source target : LaneId) : Prop :=
  ∃ edge next, network.edges[source.edge.index]? = some edge ∧
    network.edges[target.edge.index]? = some next ∧
    next.source = edge.target ∧ target.index < next.lanes.length

/-- The shape that connects two lanes. It is a smooth curve if the edge that is left has few lanes
and the junction encloses enough, and a straight line otherwise. -/
def connector (network : Network α) (raw : RawShapes α) (source target : LaneId) :
    Checked α (Polyline α) := do
  let edge ← network.edge source.edge
  let next ← network.edge target.edge
  let through ← network.junction edge.target
  if edge.lanes.length ≤ mostSmoothedLanes ∧ through.shape.area > leastSmoothedArea then
    smoothCurve (← network.rawShape raw source) (← network.rawShape raw target)
      { points := curvePoints
        isTurnaround := edge.turnaround == some target.edge
        extendStart := Scalar.ofNat (curvePoints * edge.lanes.length)
        extendFinish := Scalar.ofNat (curvePoints * next.lanes.length) }
  else return straightLink (← network.laneShape source) (← network.laneShape target)

/-- The ribbon along the shape that connects two lanes. -/
def connectorRibbon (network : Network α) (raw : RawShapes α) (source target : LaneId) :
    Checked α (Ribbon α) := do
  Ribbon.ofShape (← network.connector raw source target)

/-! ### The shape of a connection -/

/-- In a valid network, there is a plan for every edge. -/
theorem curvePlan_eq_ok {network : Network α} {id : EdgeId} {edge : Edge α} {through : Junction α}
    (here : network.edge id = .ok edge) (ends : network.junction edge.target = .ok through) :
    network.curvePlan id edge.target = .ok
      { junction := edge.target
        isSmooth := edge.lanes.length ≤ mostSmoothedLanes ∧ through.shape.area > leastSmoothedArea
        lanes := edge.lanes.length
        turnaround := edge.turnaround } := by
  have counted : network.laneCount id = .ok edge.lanes.length :=
    laneCount_eq_ok.mpr ⟨edge, edge_eq_ok.mp here, rfl⟩
  simp only [curvePlan, counted, Checked.ok_bind, junctionShape, ends, turnaround?, here]
  -- The area is looked at only if the edge has few lanes.
  by_cases few : edge.lanes.length ≤ mostSmoothedLanes
  · simp [few]
  · simp [few]

/-- The plan for an edge leads to the connector to every lane. -/
theorem connectorShape_eq_connector {network : Network α} {raw : RawShapes α}
    (valid : network.Valid) {source target : LaneId} {edge next : Edge α}
    (here : network.edge source.edge = .ok edge) (there : network.edge target.edge = .ok next)
    {plan : CurvePlan α} (planned : network.curvePlan source.edge edge.target = .ok plan) :
    network.connectorShape raw plan source next.lanes.length target =
      network.connector raw source target := by
  obtain ⟨through, ends⟩ := valid.exists_target (edge_eq_ok.mp here)
  rw [curvePlan_eq_ok here ends, Except.ok.injEq] at planned
  subst plan
  simp only [connectorShape, connector, here, there, ends, Checked.ok_bind, decide_eq_true_eq]
  rfl

/-! ### Filling the map -/

/-- The lanes of some kind are connected and no others, each along its connector. -/
structure Filled (network : Network α) (raw : RawShapes α) (source : LaneId)
    (connected : LaneId → Prop) (found : Connections α) : Prop where
  origin : found.source = source
  ordered : Connections.Ordered found.all
  present : ∀ lane, connected lane → ∃ ribbon,
    network.connectorRibbon raw source lane = .ok ribbon ∧ found.ribbon? lane = some ribbon
  absent : ∀ lane, ¬connected lane → found.ribbon? lane = none

variable {network : Network α} {raw : RawShapes α} {source : LaneId}

theorem Filled.none : Filled network raw source (fun _ => False) (Connections.none source) :=
  ⟨rfl, .nil, fun _ impossible => impossible.elim, fun _ _ => rfl⟩

theorem Filled.congr {connected others : LaneId → Prop} {found : Connections α}
    (filled : Filled network raw source connected found)
    (same : ∀ lane, connected lane ↔ others lane) : Filled network raw source others found :=
  ⟨filled.origin, filled.ordered, fun lane held => filled.present lane ((same lane).mpr held),
    fun lane held => filled.absent lane fun connects => held ((same lane).mp connects)⟩

theorem Filled.insert {connected : LaneId → Prop} {found : Connections α}
    (filled : Filled network raw source connected found) {target : LaneId} {ribbon : Ribbon α}
    (made : network.connectorRibbon raw source target = .ok ribbon) :
    Filled network raw source (fun lane => connected lane ∨ lane = target)
      (found.insert ⟨target, ribbon⟩) := by
  refine ⟨filled.origin, Connections.ordered_insertInto filled.ordered, ?_, ?_⟩
  · intro lane held
    rw [Connections.ribbon?_insert]
    by_cases same : lane = target
    · subst lane
      exact ⟨ribbon, made, by simp⟩
    · obtain ⟨other, found, kept⟩ := filled.present lane (held.resolve_right same)
      exact ⟨other, found, by simpa [same] using kept⟩
  · intro lane held
    rw [not_or] at held
    simpa [Connections.ribbon?_insert, held.2] using filled.absent lane held.1

/-- Following an edge connects its lanes. -/
theorem Filled.connectEdge (valid : network.Valid) {edge : Edge α}
    (here : network.edge source.edge = .ok edge) {plan : CurvePlan α}
    (planned : network.curvePlan source.edge edge.target = .ok plan)
    {connected : LaneId → Prop} {found more : Connections α}
    (filled : Filled network raw source connected found) {id : EdgeId}
    (followed : network.connectEdge raw plan source found id = .ok more) :
    Filled network raw source (fun lane => connected lane ∨ lane.edge = id ∧
      ∃ next, network.edges[lane.edge.index]? = some next ∧ lane.index < next.lanes.length)
      more := by
  simp only [Network.connectEdge, Checked.bind_eq_ok] at followed
  obtain ⟨count, counted, lanes, listed, followed⟩ := followed
  obtain ⟨next, there, rfl⟩ := laneCount_eq_ok.mp counted
  -- By induction on the lanes of the edge: those before and those done so far are connected.
  have all : Filled network raw source (fun lane => connected lane ∨ lane ∈ lanes) more := by
    refine Checked.foldlM_induction (fun done reached =>
      Filled network raw source (fun lane => connected lane ∨ lane ∈ done) reached) ?_ ?_ followed
    · exact filled.congr fun lane => by simp
    · intro done target reached after member filled made
      obtain ⟨rfl, _⟩ := (mem_lanesOf listed).mp member
      simp only [connectorShape_eq_connector valid here (edge_eq_ok.mpr there) planned,
        Checked.bind_eq_ok, Checked.pure_eq_ok] at made
      obtain ⟨shape, drawn, ribbon, measured, rfl⟩ := made
      have made : network.connectorRibbon raw source target = .ok ribbon := by
        simp [connectorRibbon, drawn, measured]
      exact (filled.insert made).congr fun lane => by simp [or_assoc]
  exact all.congr fun lane => or_congr_right (mem_lanesOf listed)

/-- Going through a junction connects the lanes that are reached. -/
theorem Filled.connectThrough (valid : network.Valid) {edge : Edge α}
    (here : network.edge source.edge = .ok edge) {found : Connections α}
    (gone : network.connectThrough raw source edge.target = .ok found) :
    Filled network raw source (network.Reaches source) found := by
  simp only [Network.connectThrough, Checked.bind_eq_ok] at gone
  obtain ⟨plan, planned, gone⟩ := gone
  -- By induction on the edges out of the junction: the lanes of those done so far are connected.
  have all : Filled network raw source (fun lane => lane.edge ∈ network.outgoing edge.target ∧
      ∃ next, network.edges[lane.edge.index]? = some next ∧ lane.index < next.lanes.length)
      found := by
    refine Checked.foldlM_induction (fun done reached =>
      Filled network raw source (fun lane => lane.edge ∈ done ∧
        ∃ next, network.edges[lane.edge.index]? = some next ∧ lane.index < next.lanes.length)
        reached) ?_ ?_ gone
    · exact Filled.none.congr fun lane => by simp
    · intro done id reached after _ filled followed
      refine (filled.connectEdge valid here planned followed).congr fun lane => ?_
      rw [List.mem_append, List.mem_singleton, or_and_right]
  -- In a valid network, an edge is listed under the junction it says it starts at.
  refine all.congr fun lane => ?_
  rw [valid.mem_outgoing]
  constructor
  · rintro ⟨⟨next, there, leaves⟩, other, again, within⟩
    rw [there, Option.some.injEq] at again
    subst other
    exact ⟨edge, next, edge_eq_ok.mp here, there, leaves, within⟩
  · rintro ⟨other, next, again, there, leaves, within⟩
    rw [edge_eq_ok.mp here, Option.some.injEq] at again
    subst other
    exact ⟨⟨next, there, leaves⟩, next, there, within⟩

/-- Refreshing connects the lanes that are reached; a lane whose edge is not there reaches none. -/
theorem filled_refresh (valid : network.Valid) {old : Connections α}
    {noted : Noted α (Connections α)} (refreshed : network.refresh raw old = .ok noted) :
    Filled network raw old.source (network.Reaches old.source) noted.value := by
  unfold refresh connections at refreshed
  cases ends : network.target? old.source.edge with
  | none =>
    simp only [ends, Checked.pure_eq_ok] at refreshed
    subst noted
    refine Filled.none.congr fun lane => ⟨False.elim, ?_⟩
    rintro ⟨edge, next, here, _⟩
    simp [target?, here] at ends
  | some junction =>
    simp only [ends, Checked.bind_eq_ok, Checked.pure_eq_ok] at refreshed
    obtain ⟨found, gone, rfl⟩ := refreshed
    simp only [target?, Option.map_eq_some_iff] at ends
    obtain ⟨edge, here, rfl⟩ := ends
    exact Filled.connectThrough valid (edge_eq_ok.mpr here) gone

/-! ### Complete connections -/

/-- The connections are those to the lanes that are reached, in order and each once. A lane that is
not reached has no geometry, and asking for it is a fault. -/
structure Complete (network : Network α) (raw : RawShapes α) (found : Connections α) : Prop where
  contains_iff : ∀ lane, found.contains lane ↔ network.Reaches found.source lane
  ordered : found.targets.Pairwise fun a b => a.before b
  mem_targets_iff : ∀ lane, lane ∈ found.targets ↔ network.Reaches found.source lane
  isSome_iff : ∀ lane, (found.ribbon? lane).isSome ↔ network.Reaches found.source lane
  returns_iff : ∀ lane, (∃ ribbon, found.ribbon lane = .ok ribbon) ↔
    network.Reaches found.source lane
  fails_iff : ∀ lane, found.ribbon lane = .error (.noConnection found.source lane) ↔
    ¬network.Reaches found.source lane
  connector : ∀ lane ribbon, found.ribbon? lane = some ribbon →
    network.connectorRibbon raw found.source lane = .ok ribbon

theorem Filled.isSome_iff {connected : LaneId → Prop} {found : Connections α}
    (filled : Filled network raw source connected found) (lane : LaneId) :
    (found.ribbon? lane).isSome ↔ connected lane := by
  by_cases held : connected lane
  · obtain ⟨ribbon, _, kept⟩ := filled.present lane held
    simp [held, kept]
  · simp [held, filled.absent lane held]

theorem Filled.complete {found : Connections α}
    (filled : Filled network raw source (network.Reaches source) found) :
    Complete network raw found := by
  obtain rfl := filled.origin
  have isSome := filled.isSome_iff
  refine ⟨?_, ?_, ?_, isSome, ?_, ?_, ?_⟩
  · exact fun lane => by rw [Connections.contains_eq_isSome, isSome]
  · exact List.pairwise_map.mpr filled.ordered
  · exact fun lane => by rw [Connections.mem_targets, isSome]
  · intro lane
    rw [← isSome, Connections.ribbon]
    cases found.ribbon? lane with
    | none => simp
    | some ribbon => simp
  · intro lane
    rw [← isSome, Connections.ribbon]
    cases found.ribbon? lane with
    | none => simp
    | some ribbon => simp
  · intro lane ribbon kept
    have held : network.Reaches found.source lane := (isSome lane).mp (by simp [kept])
    obtain ⟨other, made, again⟩ := filled.present lane held
    rw [kept, Option.some.injEq] at again
    exact again ▸ made

/-- In a network without defects, refreshing finds the complete connections of the lane, whatever
was connected before: none at all if the edge of the lane is not there. -/
theorem refresh_complete {old : Connections α} {noted : Noted α (Connections α)}
    (sound : network.defect? = none) (refreshed : network.refresh raw old = .ok noted) :
    noted.value.source = old.source ∧
    Complete network raw noted.value ∧
    (∀ other, other.source = old.source → network.refresh raw other = .ok noted) ∧
    (network.target? old.source.edge = none → noted.value.all = []) := by
  have filled := filled_refresh (defect?_eq_none.mp sound) refreshed
  refine ⟨filled.origin, filled.complete, fun other same => ?_, fun ends => ?_⟩
  · rw [← refreshed, refresh, refresh, same]
  · simp only [refresh, connections, ends, Checked.pure_eq_ok] at refreshed
    subst noted
    rfl

/-- A road into a junction that two roads leave, one of them with two lanes. -/
def crossing : Network Float where
  junctions := [⟨⟨0⟩, ⟨[⟨0, 0⟩]⟩⟩, ⟨⟨1⟩, ⟨[⟨10, 0⟩, ⟨11, 0⟩, ⟨11, 1⟩]⟩⟩]
  edges :=
    [⟨⟨0⟩, ⟨0⟩, ⟨1⟩, [⟨⟨[⟨0, 0⟩, ⟨10, 0⟩]⟩, 3⟩], some ⟨2⟩⟩,
      ⟨⟨1⟩, ⟨1⟩, ⟨0⟩, [⟨⟨[⟨13, 4⟩, ⟨30, 0⟩]⟩, 3⟩, ⟨⟨[⟨10, 3⟩, ⟨30, 3⟩]⟩, 3⟩], none⟩,
      ⟨⟨2⟩, ⟨1⟩, ⟨0⟩, [⟨⟨[⟨10, 6⟩, ⟨0, 6⟩]⟩, 3⟩], some ⟨0⟩⟩]

theorem refresh_complete_of_crossing : crossing.defect? = none ∧
    ∃ noted, crossing.refresh [] ⟨⟨⟨0⟩, 0⟩, [⟨⟨⟨5⟩, 1⟩, Ribbon.empty⟩]⟩ = .ok noted ∧
      Complete crossing [] noted.value := by
  have sound : crossing.defect? = none := by decide
  refine ⟨sound, (Checked.exists_of_isOk ?_).imp fun noted refreshed => ⟨refreshed, ?_⟩⟩
  · decide +kernel
  · exact (refresh_complete sound refreshed).2.1

end Network

end RoadSketch
