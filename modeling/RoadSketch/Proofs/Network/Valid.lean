import RoadSketch.Network.Validity
import RoadSketch.Proofs.Network.Lookup

/-!
# Valid networks

The search for a defect finds none iff the network is valid. In a valid network, what is stored
under an index is named by it, so looking up the edges that leave a junction goes by their names.
-/
namespace RoadSketch.Network

variable {α : Type}

theorem junctionDefect?_eq_none {junction : Junction α} {index : Nat} :
    junctionDefect? junction index = none ↔ junction.id.index = index := by
  simp [junctionDefect?]

theorem edgeDefect?_eq_none {network : Network α} {edge : Edge α} {index : Nat} :
    network.edgeDefect? edge index = none ↔
      edge.id.index = index ∧ edge.source.index < network.junctions.length ∧
      edge.target.index < network.junctions.length ∧
      ∀ other, edge.turnaround = some other → other.index < network.edges.length := by
  unfold edgeDefect?
  by_cases placed : edge.id.index = index
  · by_cases source : network.junctions.length ≤ edge.source.index
    · simp [placed, source, Nat.not_lt.mpr source]
    · by_cases target : network.junctions.length ≤ edge.target.index
      · simp [placed, source, target, Nat.not_lt.mpr target]
      · cases turns : edge.turnaround with
        | none => simp [placed, source, target, Nat.not_le.mp source, Nat.not_le.mp target]
        | some other =>
          simp [placed, source, target, Nat.not_le.mp source, Nat.not_le.mp target]
  · simp [placed]

/-- A network has no defect iff it is valid. -/
theorem defect?_eq_none {network : Network α} : network.defect? = none ↔ network.Valid := by
  simp only [defect?, Option.or_eq_none_iff, List.findSome?_eq_none_iff, Prod.forall,
    List.mk_mem_zipIdx_iff_getElem?, junctionDefect?_eq_none, edgeDefect?_eq_none]
  constructor
  · rintro ⟨junctions, edges⟩
    refine ⟨fun i j here => junctions j i here, fun i e here => (edges e i here).1, ?_, ?_, ?_⟩
    · intro e member
      obtain ⟨i, here⟩ := List.mem_iff_getElem?.mp member
      exact (edges e i here).2.1
    · intro e member
      obtain ⟨i, here⟩ := List.mem_iff_getElem?.mp member
      exact (edges e i here).2.2.1
    · intro e member
      obtain ⟨i, here⟩ := List.mem_iff_getElem?.mp member
      exact (edges e i here).2.2.2
  · intro valid
    refine ⟨fun j i here => valid.junction_index i j here, fun e i here => ?_⟩
    have member := List.mem_of_getElem? here
    exact ⟨valid.edge_index i e here, valid.source_lt e member, valid.target_lt e member,
      valid.turnaround_lt e member⟩

theorem Valid.exists_target {network : Network α} (valid : network.Valid) {id : EdgeId}
    {edge : Edge α} (here : network.edges[id.index]? = some edge) :
    ∃ junction, network.junction edge.target = .ok junction := by
  have within := valid.target_lt edge (List.mem_of_getElem? here)
  exact ⟨_, junction_eq_ok.mpr (List.getElem?_eq_getElem within)⟩

/-- In a valid network, the edges out of a junction are those stored with it as their source. -/
theorem Valid.mem_outgoing {network : Network α} (valid : network.Valid) {junction : JunctionId}
    {id : EdgeId} : id ∈ network.outgoing junction ↔
      ∃ edge, network.edges[id.index]? = some edge ∧ edge.source = junction := by
  simp only [outgoing, List.mem_map, List.mem_filter, beq_iff_eq]
  constructor
  · rintro ⟨edge, ⟨member, leaves⟩, rfl⟩
    obtain ⟨i, here⟩ := List.mem_iff_getElem?.mp member
    exact ⟨edge, by rw [valid.edge_index i edge here, here], leaves⟩
  · rintro ⟨edge, here, leaves⟩
    have named := valid.edge_index id.index edge here
    exact ⟨edge, ⟨List.mem_of_getElem? here, leaves⟩, congrArg EdgeId.mk named⟩

end RoadSketch.Network
