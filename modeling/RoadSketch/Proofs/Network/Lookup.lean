import Mathlib.Data.List.Nodup
import RoadSketch.Network.Basic
import RoadSketch.Proofs.Checked

/-!
# Looking up edges and lanes

What is found under the name of an edge or a junction, and which lanes an edge has.
-/
namespace RoadSketch.Network

variable {α : Type}

theorem item_eq_ok {β : Type} {items : List β} {index : Nat} {found : β} :
    (item items index : Checked α β) = .ok found ↔ items[index]? = some found := by
  unfold item
  cases items[index]? with
  | none => simp
  | some other => simp

theorem edge_eq_ok {network : Network α} {id : EdgeId} {edge : Edge α} :
    network.edge id = .ok edge ↔ network.edges[id.index]? = some edge := item_eq_ok

theorem junction_eq_ok {network : Network α} {id : JunctionId} {junction : Junction α} :
    network.junction id = .ok junction ↔ network.junctions[id.index]? = some junction := item_eq_ok

theorem lane_eq_ok {network : Network α} {id : LaneId} {lane : Lane α} :
    network.lane id = .ok lane ↔ ∃ edge, network.edges[id.edge.index]? = some edge ∧
      edge.lanes[id.index]? = some lane := by
  simp only [Network.lane, Checked.bind_eq_ok, edge_eq_ok, item_eq_ok]

theorem lanesOf_eq_ok {network : Network α} {id : EdgeId} {lanes : List LaneId} :
    network.lanesOf id = .ok lanes ↔ ∃ edge, network.edges[id.index]? = some edge ∧
      (List.range edge.lanes.length).map (fun index => ⟨id, index⟩) = lanes := by
  simp only [lanesOf, Checked.bind_eq_ok, Checked.pure_eq_ok, edge_eq_ok]

theorem laneCount_eq_ok {network : Network α} {id : EdgeId} {count : Nat} :
    network.laneCount id = .ok count ↔
      ∃ edge, network.edges[id.index]? = some edge ∧ edge.lanes.length = count := by
  simp only [laneCount, Checked.bind_eq_ok, Checked.pure_eq_ok, lanesOf_eq_ok]
  constructor
  · rintro ⟨_, ⟨edge, here, rfl⟩, counted⟩
    exact ⟨edge, here, by simpa using counted⟩
  · rintro ⟨edge, here, counted⟩
    exact ⟨_, ⟨edge, here, rfl⟩, by simpa using counted⟩

theorem mem_lanesOf {network : Network α} {id : EdgeId} {lanes : List LaneId}
    (listed : network.lanesOf id = .ok lanes) {lane : LaneId} : lane ∈ lanes ↔
      lane.edge = id ∧ ∃ edge, network.edges[lane.edge.index]? = some edge ∧
        lane.index < edge.lanes.length := by
  obtain ⟨edge, here, rfl⟩ := lanesOf_eq_ok.mp listed
  simp only [List.mem_map, List.mem_range]
  constructor
  · rintro ⟨index, within, rfl⟩
    exact ⟨rfl, edge, here, within⟩
  · rintro ⟨rfl, other, found, within⟩
    rw [here, Option.some.injEq] at found
    subst other
    exact ⟨lane.index, within, rfl⟩

/-- No lane of an edge is listed twice. -/
theorem nodup_lanesOf {network : Network α} {id : EdgeId} {lanes : List LaneId}
    (listed : network.lanesOf id = .ok lanes) : lanes.Nodup := by
  obtain ⟨edge, _, rfl⟩ := lanesOf_eq_ok.mp listed
  refine List.Nodup.map ?_ List.nodup_range
  intro i j same
  exact (LaneId.mk.inj same).2

end RoadSketch.Network
