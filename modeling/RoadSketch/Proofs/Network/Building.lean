import RoadSketch.Double
import RoadSketch.Network.Building
import RoadSketch.Proofs.Network.Valid

/-!
# Networks as they are built

Names are places in lists that only grow, so a name keeps leading to what was added under it, and a
network that is built with names it gave out has no defect at any moment.

## Main result

`Building.makeAll_faithful`: every run of calls that pass only names given back before succeeds. The
network it leads to has no defect and holds exactly what was added, under the names given back.
-/
namespace RoadSketch

variable {α : Type}

/-- The edge that a call says goes back for an edge, if it says so. -/
def BuildCall.turnaroundOf? (id : EdgeId) : BuildCall α → Option EdgeId
  | .setTurnaround target other => if target = id then some other else none
  | _ => none

/-- The name of the edge that was added with a junction as its source, if an event added one. -/
def BuildEvent.departure? (junction : JunctionId) (event : BuildEvent α) : Option EdgeId :=
  match event.call, event.reply with
  | .addEdge source _ _, .edge id => if source = junction then some id else none
  | _, _ => none

namespace Building

/-- The edge that was last said to go back for an edge. -/
def lastTurnaround (history : List (BuildEvent α)) (id : EdgeId) : Option EdgeId :=
  (history.filterMap (·.call.turnaroundOf? id)).getLast?

/-- What an event added is found under the name it gave back, and of the edges that were said to go
back for an edge the last one is found there. -/
def Keeps (building : Building α) (event : BuildEvent α) : Prop :=
  match event.call, event.reply with
  | .addJunction shape, .junction id => building.network.junction id = .ok ⟨id, shape⟩
  | .addEdge source target lanes, .edge id =>
    building.network.edge id =
        .ok ⟨id, source, target, lanes, lastTurnaround building.history id⟩ ∧
      ∀ index, building.network.lane ⟨id, index⟩ = Network.item lanes index
  | .setTurnaround id _, .done => ∃ edge, building.network.edge id = .ok edge ∧
      edge.turnaround = lastTurnaround building.history id
  | _, _ => False

/-- The network has no defect, and holds what was added and nothing else, each under a name of its
own. -/
structure Faithful (building : Building α) : Prop where
  sound : building.network.defect? = none
  kept : ∀ event ∈ building.history, building.Keeps event
  distinct : building.history.Pairwise fun earlier later =>
    earlier.reply = later.reply → later.reply = .done
  outgoing : ∀ junction, building.network.outgoing junction =
    building.history.filterMap (·.departure? junction)
  nodup_outgoing : ∀ junction, (building.network.outgoing junction).Nodup

end Building

/-! ### What a call does to a network -/

namespace Network

theorem getElem?_concat_eq_some {β : Type} {items : List β} {added found : β} {i : Nat} :
    (items ++ [added])[i]? = some found ↔
      items[i]? = some found ∨ i = items.length ∧ added = found := by
  by_cases before : i < items.length
  · have place : i ≠ items.length := by omega
    simp [List.getElem?_append_left before, place]
  · have behind : items.length ≤ i := by omega
    have place : i - items.length = 0 ↔ i = items.length := by omega
    simp [List.getElem?_append_right behind, List.getElem?_eq_none behind, List.getElem?_singleton,
      place]

/-- Everything is still found under its name, with the turnaround that a call sets. -/
structure Extends (call : BuildCall α) (network next : Network α) : Prop where
  junction : ∀ id junction, network.junction id = .ok junction → next.junction id = .ok junction
  edge : ∀ id edge, network.edge id = .ok edge →
    next.edge id = .ok { edge with turnaround := (call.turnaroundOf? id).or edge.turnaround }

theorem lane_eq_item {network : Network α} {id : EdgeId} {edge : Edge α}
    (found : network.edge id = .ok edge) (index : Nat) :
    network.lane ⟨id, index⟩ = item edge.lanes index := by
  simp only [lane, found, Checked.ok_bind]

/-- The edges out of a junction depend on the names and the sources of edges only. -/
theorem outgoing_eq (network : Network α) (junction : JunctionId) :
    network.outgoing junction =
      ((network.edges.map fun edge => (edge.source, edge.id)).filter (·.1 == junction)).map (·.2) := by
  rw [List.filter_map, List.map_map]
  rfl

theorem Valid.nodup_outgoing {network : Network α} (valid : network.Valid)
    (junction : JunctionId) : (network.outgoing junction).Nodup := by
  -- The edges are named by their places, and no place is listed twice.
  have places : network.edges.map (·.id.index) = List.range network.edges.length := by
    apply List.ext_getElem (by simp)
    intro i within _
    have inside : i < network.edges.length := by simpa using within
    simpa using valid.edge_index i _ (List.getElem?_eq_getElem inside)
  have names : (network.edges.map (·.id)).Nodup := by
    refine List.Nodup.of_map EdgeId.index ?_
    rw [List.map_map]
    exact places ▸ List.nodup_range
  exact names.sublist (List.filter_sublist.map _)

theorem Valid.addJunction {network : Network α} (valid : network.Valid) (shape : Polyline α) :
    (network.addJunction shape).2.Valid := by
  have grown : network.junctions.length ≤ (network.addJunction shape).2.junctions.length := by
    simp [Network.addJunction]
  refine ⟨fun i junction here => ?_, valid.edge_index, fun edge member => ?_, fun edge member => ?_,
    valid.turnaround_lt⟩
  · rcases getElem?_concat_eq_some.mp here with old | ⟨rfl, rfl⟩
    · exact valid.junction_index i junction old
    · rfl
  · exact Nat.lt_of_lt_of_le (valid.source_lt edge member) grown
  · exact Nat.lt_of_lt_of_le (valid.target_lt edge member) grown

theorem junction_addJunction (network : Network α) (shape : Polyline α) :
    (network.addJunction shape).2.junction (network.addJunction shape).1 =
      .ok ⟨(network.addJunction shape).1, shape⟩ :=
  junction_eq_ok.mpr (getElem?_concat_eq_some.mpr (.inr ⟨rfl, rfl⟩))

theorem extends_addJunction (network : Network α) (shape : Polyline α) :
    Extends (.addJunction shape) network (network.addJunction shape).2 := by
  refine ⟨fun id junction found => ?_, fun id edge found => found⟩
  exact junction_eq_ok.mpr (getElem?_concat_eq_some.mpr (.inl (junction_eq_ok.mp found)))

section
variable (network : Network α) (source target : JunctionId) (lanes : List (Lane α))

theorem Valid.addEdge {network : Network α} (valid : network.Valid) {source target : JunctionId}
    (lanes : List (Lane α)) (starts : source.index < network.junctions.length)
    (ends : target.index < network.junctions.length) :
    (network.addEdge source target lanes).2.Valid := by
  have members : ∀ edge ∈ (network.addEdge source target lanes).2.edges, edge ∈ network.edges ∨
      edge = ⟨⟨network.edges.length⟩, source, target, lanes, none⟩ := by
    simp [Network.addEdge]
  refine ⟨valid.junction_index, fun i edge here => ?_, fun edge member => ?_,
    fun edge member => ?_, fun edge member other turns => ?_⟩
  · rcases getElem?_concat_eq_some.mp here with old | ⟨rfl, rfl⟩
    · exact valid.edge_index i edge old
    · rfl
  · rcases members edge member with old | rfl
    · exact valid.source_lt edge old
    · exact starts
  · rcases members edge member with old | rfl
    · exact valid.target_lt edge old
    · exact ends
  · rcases members edge member with old | rfl
    · have within := valid.turnaround_lt edge old other turns
      simp only [Network.addEdge, List.length_append]
      omega
    · cases turns

theorem edge_addEdge :
    (network.addEdge source target lanes).2.edge (network.addEdge source target lanes).1 =
      .ok ⟨(network.addEdge source target lanes).1, source, target, lanes, none⟩ :=
  edge_eq_ok.mpr (getElem?_concat_eq_some.mpr (.inr ⟨rfl, rfl⟩))

theorem extends_addEdge :
    Extends (.addEdge source target lanes) network (network.addEdge source target lanes).2 := by
  refine ⟨fun id junction found => found, fun id edge found => ?_⟩
  exact edge_eq_ok.mpr (getElem?_concat_eq_some.mpr (.inl (edge_eq_ok.mp found)))

theorem outgoing_addEdge (junction : JunctionId) :
    (network.addEdge source target lanes).2.outgoing junction = network.outgoing junction ++
      if source = junction then [(network.addEdge source target lanes).1] else [] := by
  by_cases leaves : source = junction
  · simp [outgoing, Network.addEdge, leaves]
  · simp [outgoing, Network.addEdge, leaves]

end

section
variable {network next : Network α} {id other : EdgeId}

theorem setTurnaround_eq_ok {edge : Edge α} (found : network.edge id = .ok edge) :
    network.setTurnaround id other = .ok { network with
      edges := network.edges.set id.index { edge with turnaround := some other } } := by
  simp only [setTurnaround, changeEdge, found, Checked.ok_bind]
  rfl

theorem Valid.setTurnaround (valid : network.Valid) {edge : Edge α}
    (found : network.edge id = .ok edge) (back : other.index < network.edges.length) :
    Valid { network with
      edges := network.edges.set id.index { edge with turnaround := some other } } := by
  have here := edge_eq_ok.mp found
  have old := List.mem_of_getElem? here
  refine ⟨valid.junction_index, fun i e there => ?_, fun e member => ?_, fun e member => ?_,
    fun e member back' turns => ?_⟩
  · rw [List.getElem?_set] at there
    split at there
    next same =>
      split at there
      · cases there
        exact same ▸ valid.edge_index id.index edge here
      · cases there
    · exact valid.edge_index i e there
  · rcases List.mem_or_eq_of_mem_set member with kept | rfl
    · exact valid.source_lt e kept
    · exact valid.source_lt edge old
  · rcases List.mem_or_eq_of_mem_set member with kept | rfl
    · exact valid.target_lt e kept
    · exact valid.target_lt edge old
  · rw [List.length_set]
    rcases List.mem_or_eq_of_mem_set member with kept | rfl
    · exact valid.turnaround_lt e kept back' turns
    · cases turns
      exact back

theorem extends_setTurnaround {edge : Edge α} (found : network.edge id = .ok edge) :
    Extends (.setTurnaround id other) network { network with
      edges := network.edges.set id.index { edge with turnaround := some other } } := by
  refine ⟨fun _ _ kept => kept, fun at' e there => ?_⟩
  have here := edge_eq_ok.mp found
  rw [edge_eq_ok] at there ⊢
  by_cases same : id = at'
  · subst at'
    rw [here, Option.some.injEq] at there
    subst e
    have within := (List.getElem?_eq_some_iff.mp here).1
    simp [BuildCall.turnaroundOf?, within]
  · have apart : id.index ≠ at'.index := fun equal => same (by cases id; cases at'; simp_all)
    simp [BuildCall.turnaroundOf?, same, List.getElem?_set_ne apart, there]

theorem outgoing_setTurnaround {edge : Edge α} (found : network.edge id = .ok edge)
    (junction : JunctionId) :
    Network.outgoing { network with
      edges := network.edges.set id.index { edge with turnaround := some other } } junction =
      network.outgoing junction := by
  have here := edge_eq_ok.mp found
  obtain ⟨within, rfl⟩ := List.getElem?_eq_some_iff.mp here
  -- Neither the source nor the name of the edge changes, and nothing else is looked at.
  have keys := List.set_getElem_self
    (show id.index < (network.edges.map fun edge => (edge.source, edge.id)).length by
      simpa using within)
  rw [List.getElem_map] at keys
  rw [outgoing_eq, outgoing_eq, List.map_set, keys]

end

end Network

/-! ### What a call does to a history -/

namespace Building

theorem lastTurnaround_concat (history : List (BuildEvent α)) (event : BuildEvent α) (id : EdgeId) :
    lastTurnaround (history ++ [event]) id =
      (event.call.turnaroundOf? id).or (lastTurnaround history id) := by
  simp only [lastTurnaround, List.filterMap_append, List.filterMap_cons, List.filterMap_nil]
  cases event.call.turnaroundOf? id with
  | none => simp
  | some other => simp

variable {building : Building α} {call : BuildCall α} {reply : BuildReply} {network : Network α}

/-- What an event added stays where it is. -/
theorem Keeps.record {event : BuildEvent α} (kept : building.Keeps event)
    (extended : Network.Extends call building.network network) :
    (building.record call reply network).Keeps event := by
  obtain ⟨made, given⟩ := event
  cases made with
  | addJunction shape =>
    cases given with
    | junction id => exact extended.junction id _ kept
    | edge id => exact kept
    | done => exact kept
  | addEdge source target lanes =>
    cases given with
    | junction id => exact kept
    | edge id =>
      -- The call may say anew which edge goes back, and then the history ends with that.
      have found := extended.edge id _ kept.1
      rw [← lastTurnaround_concat building.history ⟨call, reply⟩ id] at found
      exact ⟨found, Network.lane_eq_item found⟩
    | done => exact kept
  | setTurnaround id other =>
    cases given with
    | junction id => exact kept
    | edge id => exact kept
    | done =>
      obtain ⟨edge, found, turns⟩ := kept
      refine ⟨_, extended.edge id edge found, ?_⟩
      rw [turns]
      exact (lastTurnaround_concat building.history ⟨call, reply⟩ id).symm

theorem gave_iff : building.gave reply ↔ ∃ event ∈ building.history, event.reply = reply := by
  simp [gave]

/-- A name that was given back for a junction leads to one. -/
theorem Faithful.junction_lt (faithful : building.Faithful) {id : JunctionId}
    (given : building.gave (.junction id)) : id.index < building.network.junctions.length := by
  obtain ⟨⟨made, _⟩, member, rfl⟩ := gave_iff.mp given
  have kept := faithful.kept _ member
  cases made with
  | addJunction shape =>
    exact (List.getElem?_eq_some_iff.mp (Network.junction_eq_ok.mp kept)).1
  | addEdge source target lanes => exact kept.elim
  | setTurnaround target other => exact kept.elim

/-- A name that was given back for an edge leads to one. -/
theorem Faithful.exists_edge (faithful : building.Faithful) {id : EdgeId}
    (given : building.gave (.edge id)) : ∃ edge, building.network.edge id = .ok edge := by
  obtain ⟨⟨made, _⟩, member, rfl⟩ := gave_iff.mp given
  have kept := faithful.kept _ member
  cases made with
  | addJunction shape => exact kept.elim
  | addEdge source target lanes => exact ⟨_, kept.1⟩
  | setTurnaround target other => exact kept.elim

/-- Nothing is said to go back for an edge that is not there. -/
theorem Faithful.lastTurnaround_eq_none (faithful : building.Faithful) {id : EdgeId}
    (missing : ∀ edge, building.network.edge id ≠ .ok edge) :
    lastTurnaround building.history id = none := by
  rw [lastTurnaround, List.getLast?_eq_none_iff, List.filterMap_eq_nil_iff]
  rintro ⟨made, given⟩ member
  have kept := faithful.kept _ member
  cases made with
  | addJunction shape => rfl
  | addEdge source target lanes => rfl
  | setTurnaround target other =>
    refine if_neg fun same => ?_
    subst target
    cases given with
    | junction id => exact kept
    | edge id => exact kept
    | done =>
      obtain ⟨edge, found, _⟩ := kept
      exact missing edge found

/-- A call keeps a network faithful if all is still found, what the call added is found as well, and
the name of that is new. -/
theorem Faithful.record (faithful : building.Faithful)
    (extended : Network.Extends call building.network network) (valid : network.Valid)
    (added : (building.record call reply network).Keeps ⟨call, reply⟩)
    (fresh : building.gave reply → reply = .done)
    (outgoing : ∀ junction, network.outgoing junction = building.network.outgoing junction ++
      ((BuildEvent.mk call reply).departure? junction).toList) :
    (building.record call reply network).Faithful := by
  refine ⟨Network.defect?_eq_none.mpr valid, fun event member => ?_, ?_, fun junction => ?_,
    valid.nodup_outgoing⟩
  · rcases List.mem_append.mp member with old | new
    · exact (faithful.kept event old).record extended
    · rwa [List.mem_singleton.mp new]
  · refine List.pairwise_append.mpr ⟨faithful.distinct, List.pairwise_singleton _ _, ?_⟩
    intro earlier member later new same
    rw [List.mem_singleton.mp new] at same ⊢
    exact fresh (gave_iff.mpr ⟨earlier, member, same⟩)
  · rw [Building.record, outgoing, faithful.outgoing, List.filterMap_append]
    cases found : (BuildEvent.mk call reply).departure? junction with
    | none => simp [found]
    | some id => simp [found]

/-! ### Runs -/

theorem faithful_empty : (empty : Building α).Faithful where
  sound := rfl
  kept _ member := nomatch member
  distinct := List.Pairwise.nil
  outgoing _ := rfl
  nodup_outgoing _ := List.nodup_nil

theorem Faithful.makeJunction (faithful : building.Faithful) (shape : Polyline α) :
    ∃ next reply, building.make (.addJunction shape) = .ok next ∧
      next.history = building.history ++ [⟨.addJunction shape, reply⟩] ∧ next.Faithful := by
  have valid := Network.defect?_eq_none.mp faithful.sound
  refine ⟨_, _, rfl, rfl, faithful.record (Network.extends_addJunction _ shape)
    (valid.addJunction shape) (Network.junction_addJunction _ shape) (fun given => ?_) ?_⟩
  · exact absurd (faithful.junction_lt given) (Nat.lt_irrefl _)
  · exact fun junction => (List.append_nil _).symm

theorem Faithful.makeEdge (faithful : building.Faithful) {source target : JunctionId}
    (starts : building.gave (.junction source)) (ends : building.gave (.junction target))
    (lanes : List (Lane α)) :
    ∃ next reply, building.make (.addEdge source target lanes) = .ok next ∧
      next.history = building.history ++ [⟨.addEdge source target lanes, reply⟩] ∧
      next.Faithful := by
  have valid := Network.defect?_eq_none.mp faithful.sound
  -- No edge is there under the new name yet, so nothing was said to go back for it either.
  have missing : ∀ edge, building.network.edge (building.network.addEdge source target lanes).1 ≠
      .ok edge := by
    intro edge found
    exact absurd (List.getElem?_eq_some_iff.mp (Network.edge_eq_ok.mp found)).1 (Nat.lt_irrefl _)
  have turns := lastTurnaround_concat building.history
    ⟨.addEdge source target lanes, .edge (building.network.addEdge source target lanes).1⟩
    (building.network.addEdge source target lanes).1
  rw [faithful.lastTurnaround_eq_none missing] at turns
  have added := Network.edge_addEdge building.network source target lanes
  refine ⟨building.record _ (.edge (building.network.addEdge source target lanes).1)
    (building.network.addEdge source target lanes).2, _, rfl, rfl, ?_⟩
  refine faithful.record (Network.extends_addEdge _ source target lanes)
    (valid.addEdge lanes (faithful.junction_lt starts) (faithful.junction_lt ends))
    ⟨added.trans ?_, Network.lane_eq_item added⟩ (fun given => ?_) fun junction => ?_
  · exact congrArg (fun turnaround => Except.ok (Edge.mk _ _ _ _ turnaround)) turns.symm
  · obtain ⟨edge, found⟩ := faithful.exists_edge given
    exact absurd found (missing edge)
  · rw [Network.outgoing_addEdge]
    simp only [BuildEvent.departure?]
    split <;> rfl

theorem Faithful.makeTurnaround (faithful : building.Faithful) {id other : EdgeId}
    (there : building.gave (.edge id)) (back : building.gave (.edge other)) :
    ∃ next reply, building.make (.setTurnaround id other) = .ok next ∧
      next.history = building.history ++ [⟨.setTurnaround id other, reply⟩] ∧ next.Faithful := by
  have valid := Network.defect?_eq_none.mp faithful.sound
  obtain ⟨edge, found⟩ := faithful.exists_edge there
  obtain ⟨way, leads⟩ := faithful.exists_edge back
  have within := (List.getElem?_eq_some_iff.mp (Network.edge_eq_ok.mp leads)).1
  have extended : Network.Extends (.setTurnaround id other) building.network _ :=
    Network.extends_setTurnaround found
  have made : building.make (.setTurnaround id other) = .ok (building.record (.setTurnaround id other)
      .done { building.network with
        edges := building.network.edges.set id.index { edge with turnaround := some other } }) := by
    rw [Building.make, Network.setTurnaround_eq_ok found]
    rfl
  refine ⟨_, .done, made, rfl, ?_⟩
  refine faithful.record extended (valid.setTurnaround found within) ?_ (fun _ => rfl)
    fun junction => ?_
  · refine ⟨_, extended.edge id edge found, ?_⟩
    exact (lastTurnaround_concat building.history ⟨.setTurnaround id other, .done⟩ id).symm ▸ by
      simp [BuildCall.turnaroundOf?]
  · rw [Network.outgoing_setTurnaround found]
    exact (List.append_nil _).symm

/-- A call that passes only names given back before succeeds, and keeps the network faithful. -/
theorem Faithful.make (faithful : building.Faithful) (known : building.knows call) :
    ∃ next reply, building.make call = .ok next ∧
      next.history = building.history ++ [⟨call, reply⟩] ∧ next.Faithful := by
  cases call with
  | addJunction shape => exact faithful.makeJunction shape
  | addEdge source target lanes =>
    simp only [knows, Bool.and_eq_true] at known
    exact faithful.makeEdge known.1 known.2 lanes
  | setTurnaround id other =>
    simp only [knows, Bool.and_eq_true] at known
    exact faithful.makeTurnaround known.1 known.2

theorem Faithful.makeAll (faithful : building.Faithful) {calls : List (BuildCall α)}
    (known : building.knowsAll calls) :
    ∃ built, building.makeAll calls = .ok built ∧
      built.history.map (·.call) = building.history.map (·.call) ++ calls ∧ built.Faithful := by
  -- By induction on the calls, with the network and the history as they are by then.
  induction calls generalizing building with
  | nil => exact ⟨building, rfl, (List.append_nil _).symm, faithful⟩
  | cons call rest ih =>
    simp only [knowsAll, Bool.and_eq_true] at known
    obtain ⟨next, reply, made, history, kept⟩ := faithful.make known.1
    rw [made] at known
    obtain ⟨built, ran, remembered, safe⟩ := ih kept known.2
    refine ⟨built, ?_, ?_, safe⟩
    · rw [Building.makeAll, List.foldlM_cons, made, Checked.ok_bind]
      exact ran
    · rw [remembered, history]
      simp

/-- A run of calls from the empty network in which every call passes only names that calls before it
gave back: it succeeds, and the network has no defect and holds what was added and nothing else. -/
theorem makeAll_faithful {calls : List (BuildCall α)} (known : empty.knowsAll calls) :
    ∃ built, empty.makeAll calls = .ok built ∧ built.history.map (·.call) = calls ∧
      built.Faithful :=
  faithful_empty.makeAll known

/-- A road and the ways back from its end, with a junction and an edge added in between. -/
def roundTrip : List (BuildCall Float) :=
  [.addJunction ⟨[⟨0, 0⟩]⟩, .addJunction ⟨[⟨10, 0⟩]⟩,
    .addEdge ⟨0⟩ ⟨1⟩ [⟨⟨[⟨0, 0⟩, ⟨10, 0⟩]⟩, 3⟩, ⟨⟨[⟨0, 3⟩, ⟨10, 3⟩]⟩, 3⟩], .addEdge ⟨1⟩ ⟨0⟩ [],
    .setTurnaround ⟨0⟩ ⟨1⟩, .addJunction ⟨[⟨10, 10⟩]⟩, .addEdge ⟨1⟩ ⟨2⟩ [], .setTurnaround ⟨0⟩ ⟨2⟩]

theorem makeAll_faithful_of_roundTrip : empty.knowsAll roundTrip ∧
    ∃ built, empty.makeAll roundTrip = .ok built ∧ built.Faithful ∧
      built.network.turnaround? ⟨0⟩ = .ok (some ⟨2⟩) ∧ built.network.outgoing ⟨1⟩ = [⟨1⟩, ⟨2⟩] := by
  have known : empty.knowsAll roundTrip := rfl
  obtain ⟨built, made, _, faithful⟩ := makeAll_faithful known
  refine ⟨known, built, made, faithful, ?_⟩
  cases made
  exact ⟨rfl, rfl⟩

end Building

end RoadSketch
