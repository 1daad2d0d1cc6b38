import RoadSketch.Network.Connection
import RoadSketch.Proofs.Checked

/-!
# Connections as an ordered map

The list of connections is kept in order of the lanes they lead to, so it has at most one for each
lane. Inserting one changes what is found for its lane only.
-/
namespace RoadSketch

variable {α : Type}

namespace LaneId

theorem before_iff {a b : LaneId} :
    a.before b ↔ a.edge.index < b.edge.index ∨ a.edge.index = b.edge.index ∧ a.index < b.index := by
  simp [before]

theorem before_trans {a b c : LaneId} (ab : a.before b) (bc : b.before c) : a.before c := by
  rw [before_iff] at *
  omega

theorem eq_of_indices {a b : LaneId} (edges : a.edge.index = b.edge.index)
    (places : a.index = b.index) : a = b := by
  obtain ⟨⟨i⟩, m⟩ := a
  obtain ⟨⟨j⟩, n⟩ := b
  cases edges
  cases places
  rfl

theorem before_of_not_before {a b : LaneId} (other : a ≠ b) (late : ¬a.before b) : b.before a := by
  rw [before_iff] at *
  have different : ¬(a.edge.index = b.edge.index ∧ a.index = b.index) :=
    fun same => other (eq_of_indices same.1 same.2)
  omega

end LaneId

namespace Connections

theorem mem_insertInto {added connection : Connection α} {all : List (Connection α)}
    (member : connection ∈ insertInto added all) : connection = added ∨ connection ∈ all := by
  induction all with
  | nil => simpa [insertInto] using member
  | cons first rest ih =>
    unfold insertInto at member
    split at member
    · simpa using member
    · split at member
      · rcases List.mem_cons.mp member with rfl | later
        · exact .inl rfl
        · exact .inr (List.mem_cons_of_mem first later)
      · rcases List.mem_cons.mp member with rfl | later
        · exact .inr List.mem_cons_self
        · exact (ih later).imp_right (List.mem_cons_of_mem first)

/-- The connections are in order of their lanes, with no lane twice. -/
def Ordered (all : List (Connection α)) : Prop :=
  all.Pairwise fun a b => a.target.before b.target

theorem ordered_insertInto {added : Connection α} {all : List (Connection α)}
    (ordered : Ordered all) : Ordered (insertInto added all) := by
  induction all with
  | nil => exact List.pairwise_singleton _ added
  | cons first rest ih =>
    obtain ⟨least, others⟩ := List.pairwise_cons.mp ordered
    unfold insertInto
    split
    next early =>
      refine List.pairwise_cons.mpr ⟨fun connection member => ?_, ordered⟩
      rcases List.mem_cons.mp member with rfl | later
      · exact early
      · exact LaneId.before_trans early (least connection later)
    next late =>
      split
      next same => exact List.pairwise_cons.mpr ⟨fun c later => same ▸ least c later, others⟩
      next other =>
        refine List.pairwise_cons.mpr ⟨fun connection member => ?_, ih others⟩
        rcases mem_insertInto member with rfl | later
        · exact LaneId.before_of_not_before other late
        · exact least connection later

theorem find?_insertInto (added : Connection α) (all : List (Connection α)) (lane : LaneId) :
    (insertInto added all).find? (·.target == lane) =
      if lane = added.target then some added else all.find? (·.target == lane) := by
  by_cases wanted : lane = added.target
  · subst lane
    induction all with
    | nil => simp [insertInto]
    | cons first rest ih =>
      unfold insertInto
      split
      next early => simp
      next late =>
        split
        next same => simp
        next other => simpa [List.find?_cons, Ne.symm other] using ih
  · have passed : ¬added.target = lane := fun same => wanted same.symm
    induction all with
    | nil => simp [insertInto, wanted, passed]
    | cons first rest ih =>
      unfold insertInto
      split
      next early => simp [passed]
      next late =>
        split
        next same => simp [passed, ← same]
        next other => simp [wanted, List.find?_cons, ih]

/-- Inserting a connection changes what is found for its lane, and for no other lane. -/
theorem ribbon?_insert (connections : Connections α) (added : Connection α) (lane : LaneId) :
    (connections.insert added).ribbon? lane =
      if lane = added.target then some added.ribbon else connections.ribbon? lane := by
  simp only [ribbon?, insert, find?_insertInto]
  split <;> rfl

theorem mem_targets {connections : Connections α} {lane : LaneId} :
    lane ∈ connections.targets ↔ (connections.ribbon? lane).isSome := by
  simp [targets, ribbon?, List.mem_map]

/-- Every connection that is listed has a geometry. -/
theorem exists_ribbon {connections : Connections α} {lane : LaneId}
    (listed : lane ∈ connections.targets) : ∃ ribbon, connections.ribbon lane = .ok ribbon := by
  obtain ⟨ribbon, kept⟩ := Option.isSome_iff_exists.mp (mem_targets.mp listed)
  exact ⟨ribbon, by rw [Connections.ribbon, kept]⟩

theorem contains_eq_isSome (connections : Connections α) (lane : LaneId) :
    connections.contains lane = (connections.ribbon? lane).isSome := by
  rw [Bool.eq_iff_iff, ← mem_targets]
  simp [contains, targets]

end Connections

end RoadSketch
