import RoadSketch.Proofs.Dash.Connectors
import RoadSketch.Proofs.Network.ConnectionMap
import RoadSketch.Proofs.Precision.Shapes

/-!
# The precision of ribbons, dashed lines and networks

What is stored in ribbons, dashed lines, networks and connections is as precise as the points and
distances that they are made of.
-/
namespace RoadSketch

open Checked

variable {α : Type} {good : α → Prop}

/-! ### Networks -/

namespace Network

variable {network : Network α}

theorem yields_item {β : Type} {post : β → Prop} {items : List β} (each : ∀ b ∈ items, post b)
    (index : Nat) : Yields post (item items index : Checked α β) := by
  unfold item
  split
  next found here => exact yields_ok (each _ (List.mem_of_getElem? here))
  · exact yields_error _

theorem All.laneShape (known : network.All good) (id : LaneId) :
    Yields (Polyline.All good) (network.laneShape id) := by
  have lane : Yields (fun lane => lane.shape.All good) (network.lane id) :=
    (yields_item known.lanes _).bind fun edge each => yields_item each _
  exact lane.bind fun lane here => yields_ok here

theorem All.junctionShape (known : network.All good) (id : JunctionId) :
    Yields (Polyline.All good) (network.junctionShape id) :=
  (yields_item known.junctions _).bind fun _ here => yields_ok here

end Network

theorem Ribbon.all_empty : (empty : Ribbon α).All good :=
  ⟨Polyline.all_empty, by simp [empty], by simp [empty]⟩

theorem Ribbon.all_ofPoint {p : Point α} (known : p.All good) (bearing : α) :
    (ofPoint p bearing).All good :=
  ⟨List.forall_mem_singleton.mpr known, by simp [ofPoint], by simp [ofPoint]⟩

variable [Scalar α]

theorem Ribbon.All.baseline {ribbon : Ribbon α} (known : ribbon.All good) :
    ribbon.baseline.All good := by
  unfold Ribbon.baseline
  cases before : ribbon.unscaled with
  | none => exact ⟨known.shape, known.lengths⟩
  | some unscaled => exact known.unscaled unscaled before

variable [IsPrecision good]

/-! ### Ribbons -/

namespace Ribbon

variable {shape : Polyline α}

theorem all_ofShape (known : shape.All good) : Yields (All good) (ofShape shape) :=
  (shape.all_lengths good).bind fun lengths each => yields_ok ⟨known, each, by simp⟩

theorem all_ofPosition (known : shape.All good) (position : Distance α) (lateral : α) :
    Yields (All good) (ofPosition shape position lateral) := by
  refine yields_bind fun length => (known.pointBeside? _ _).bind fun found each => ?_
  split
  · exact yields_ok all_empty
  · exact yields_bind fun direction => yields_ok (all_ofPoint (each _ rfl) _)

theorem all_ofWindow (known : shape.All good) (start finish : Distance α) (lateral : α) :
    Yields (All good) (ofWindow shape start finish lateral) :=
  (known.shift lateral).bind fun _ moved => yields_bind fun _ => yields_bind fun _ =>
    (moved.slice _ _).bind fun _ piece => all_ofShape piece

theorem all_ofTrims (known : shape.All good) (start finish : Option (Distance α))
    {first last : Option (Point α)} (begins : ∀ p ∈ first, p.All good)
    (ends : ∀ p ∈ last, p.All good) : Yields (All good) (ofTrims shape start finish first last) := by
  unfold ofTrims
  split
  · exact all_ofShape known
  refine yields_bind fun _ => yields_bind fun window => ?_
  refine (known.slice _ _).bind fun piece there => ?_
  -- The piece is extended twice, each time only if there is a point to glue on.
  extract_lets begun whole
  have there : begun.All good := by
    unfold begun
    split
    · exact there.prepend (begins _ rfl)
    · exact there
  have there : whole.All good := by
    unfold whole
    split
    · exact there.append (ends _ rfl)
    · exact there
  exact all_ofShape there

theorem All.scale {ribbon : Ribbon α} (known : ribbon.All good) (factor : α) :
    Yields (All good) (ribbon.scale factor) := by
  have before := known.baseline
  refine (before.shape.scale _).bind fun shape there => ?_
  refine Yields.bind (.mapM fun length _ => Distance.all_ofMeters good _) fun lengths each => ?_
  exact yields_ok ⟨there, each, by simpa using ⟨before.shape, before.lengths⟩⟩

end Ribbon

/-! ### Positions on lanes -/

section
variable {position length : Distance α}

theorem all_keepInside (known : position.All good) (length : Distance α) :
    Yields (Distance.All good) (keepInside position length) := by
  unfold keepInside
  extract_lets inside
  have known : inside.All good := by
    unfold inside
    split
    · exact Distance.all_positionStep good
    · exact known
  refine (Distance.all_ofMeters good _).bind fun latest late => ?_
  split
  · exact yields_ok late
  · exact yields_ok known

theorem all_keepInside? {position : Option (Distance α)} (known : ∀ d ∈ position, d.All good)
    (length : Option (Distance α)) :
    Yields (fun found => ∀ d ∈ found, Distance.All good d) (keepInside? position length) := by
  unfold keepInside?
  split
  · exact (all_keepInside (known _ rfl) _).bind fun d here => yields_ok (by simpa using here)
  · exact yields_ok known

theorem all_adjustPathEnds {start finish : Option (Distance α)} (first : ∀ d ∈ start, d.All good)
    (last : ∀ d ∈ finish, d.All good) (startLength finishLength : Option (Distance α))
    (sameLane : Bool) :
    Yields (fun ends => (∀ d ∈ ends.1, Distance.All good d) ∧ ∀ d ∈ ends.2, Distance.All good d)
      (adjustPathEnds start startLength finish finishLength sameLane) := by
  unfold adjustPathEnds
  -- Whatever end was chosen, both ends are kept inside their lanes afterwards.
  extract_lets keep
  have kept (finish : Option (Distance α)) (last : ∀ d ∈ finish, d.All good) :
      Yields (fun ends => (∀ d ∈ ends.1, Distance.All good d) ∧ ∀ d ∈ ends.2, Distance.All good d)
        (keep finish) := by
    refine (all_keepInside? first _).bind fun start first => ?_
    exact (all_keepInside? last _).bind fun finish last => yields_ok ⟨first, last⟩
  split
  · split
    · exact (Distance.all_ofMeters good _).bind fun d here => kept _ (by simpa using here)
    · exact kept _ last
  · exact kept _ last

end

/-! ### Dashed lines -/

namespace DashRun

variable {shape : Polyline α} {p q : Point α}

theorem all_ofShape (known : shape.All good) (offset : Int) :
    Yields (All good) (ofShape shape offset) :=
  (shape.all_lengths good).bind fun _ each => yields_ok ⟨known, each⟩

theorem all_between (first : p.All good) (last : q.All good) (step : Distance α) (offset : Int) :
    Yields (All good) (between p q step offset) := by
  have ends : Polyline.All good ⟨[p, q]⟩ :=
    List.forall_mem_cons.mpr ⟨first, List.forall_mem_singleton.mpr last⟩
  exact (ends.resample step true).bind fun spaced known => all_ofShape known offset

theorem All.shift {run : DashRun α} (known : run.All good) (width : α) :
    Yields (All good) (run.shift width) :=
  (known.shape.shift width).bind fun _ moved => all_ofShape moved _

end DashRun

namespace DashedLine

variable {shape : Polyline α} {line top bottom : DashedLine α}

theorem all_ofSegments (known : shape.All good) (settings : Settings α) (step : Distance α) :
    Yields (All good) (ofSegments settings shape step) := by
  refine Yields.bind (.mapM fun segment member => ?_) fun runs each => yields_ok each
  have ends := known.segments segment member
  exact DashRun.all_between ends.start ends.finish step (-1)

omit [IsPrecision good] in
theorem all_closeIf (known : shape.All good) (close : Bool) : (closeIf close shape).All good := by
  unfold closeIf
  split
  · exact known.closeLoop
  · exact known

theorem all_dashLength (settings : Settings α) (length : Distance α) :
    Yields (Distance.All good) (dashLength settings length) := by
  refine yields_bind fun greatest => ?_
  split
  · exact Distance.all_divide good _ _
  · exact Distance.all_ofMeters good _

theorem all_ofShape (known : shape.All good) (settings : Settings α) (close : Bool) :
    Yields (All good) (ofShape settings shape close) :=
  yields_bind fun _ => yields_bind fun _ => all_ofSegments (all_closeIf known close) settings _

theorem all_redraw (known : shape.All good) (settings : Settings α) (close : Bool) :
    Yields (All good) (redraw settings shape close) :=
  yields_bind fun _ => all_ofSegments (all_closeIf known close) settings _

theorem all_connector? {start finish : Option (Point α)} (first : ∀ p ∈ start, p.All good)
    (last : ∀ p ∈ finish, p.All good) (step : Distance α) (offset : Int) :
    Yields (fun runs => ∀ run ∈ runs, DashRun.All good run) (connector? start finish step offset) := by
  unfold connector?
  split
  · exact (DashRun.all_between (first _ rfl) (last _ rfl) step offset).bind fun run known =>
      yields_ok (List.forall_mem_singleton.mpr known)
  · exact yields_ok (by simp)

omit [Scalar α] [IsPrecision good] in
theorem All.start? (known : line.All good) : ∀ p ∈ line.start?, p.All good := by
  intro p starts
  obtain ⟨run, first, here⟩ := Option.bind_eq_some_iff.mp starts
  exact (known run (List.mem_of_mem_head? first)).shape.first here

omit [Scalar α] [IsPrecision good] in
theorem All.finish? (known : line.All good) : ∀ p ∈ line.finish?, p.All good := by
  intro p finishes
  obtain ⟨run, last, here⟩ := Option.bind_eq_some_iff.mp finishes
  exact (known run (List.mem_of_getLast? last)).shape.last here

theorem all_wanted (join : Bool) {start finish : Option (Point α)} (first : ∀ p ∈ start, p.All good)
    (last : ∀ p ∈ finish, p.All good) (step : Distance α) (offset : Int) :
    Yields (fun runs => ∀ run ∈ runs, DashRun.All good run)
      (wanted join start finish step offset) := by
  unfold wanted
  split
  · exact all_connector? first last step offset
  · exact yields_ok (by simp)

theorem all_connectors (above : top.All good) (below : bottom.All good) (settings : Settings α)
    (joinStarts joinEnds : Bool) :
    Yields (All good) (connectors settings top joinStarts bottom joinEnds) := by
  rw [connectors_eq]
  refine yields_bind fun step => ?_
  refine (all_wanted joinStarts above.start? below.start? step _).bind fun starts first => ?_
  refine (all_wanted joinEnds above.finish? below.finish? step _).bind fun ends last => ?_
  exact yields_ok (List.forall_mem_append.mpr ⟨first, last⟩)

theorem All.shift (known : line.All good) (width : α) : Yields (All good) (line.shift width) :=
  Yields.bind (.mapM fun run member => (known run member).shift width) fun _ each => yields_ok each

omit [Scalar α] [IsPrecision good] in
theorem All.invert (known : line.All good) : line.invert.All good := by
  intro run member
  obtain ⟨before, there, rfl⟩ := List.mem_map.mp member
  exact ⟨(known before there).shape, (known before there).lengths⟩

end DashedLine

/-! ### Connections -/

omit [Scalar α] [IsPrecision good] in
theorem all_straightLink {source target : Polyline α} (first : source.All good)
    (last : target.All good) : (straightLink source target).All good := by
  refine List.forall_mem_append.mpr ⟨fun p ends => ?_, fun p starts => ?_⟩
  · exact first.last (Option.mem_toList.mp ends)
  · exact last.first (Option.mem_toList.mp starts)

theorem Cubic.all_sample (curve : Cubic α) (count : Nat) :
    Yields (Polyline.All good) (curve.sample count) :=
  Yields.bind (.mapM fun _ _ => Point.all_ofCoordinates good _ _) fun _ each =>
    yields_ok (Polyline.all_empty.appendEach each)

theorem all_smoothCurve {source target : Polyline α} (first : source.All good)
    (last : target.All good) (request : CurveRequest α) :
    Yields (Polyline.All good) (smoothCurve source target request) := by
  unfold smoothCurve
  split
  next start finish ends starts =>
    have link : Polyline.All good ⟨[start, finish]⟩ :=
      List.forall_mem_cons.mpr ⟨first.last ends, List.forall_mem_singleton.mpr (last.first starts)⟩
    -- Handles shape the curve but are no points of it.
    refine yields_bind fun _ => yields_bind fun startAngle? => yields_bind fun finishAngle? => ?_
    split
    · split
      · exact yields_ok link
      · refine yields_bind fun gap => ?_
        extract_lets halfGap
        refine yields_bind fun _ => yields_bind fun startHandle => ?_
        refine yields_bind fun _ => yields_bind fun finishHandle => ?_
        exact Cubic.all_sample _ _
    · exact yields_ok link
  · exact yields_ok Polyline.all_empty

namespace Connections

variable {found : Connections α}

omit [Scalar α] [IsPrecision good] in
theorem All.insert (known : found.All good) {added : Connection α}
    (new : added.ribbon.All good) : (found.insert added).All good := by
  intro connection member
  rcases mem_insertInto member with rfl | old
  · exact new
  · exact known connection old

omit [Scalar α] [IsPrecision good] in
theorem All.ribbon? (known : found.All good) {target : LaneId} {ribbon : Ribbon α}
    (listed : found.ribbon? target = some ribbon) : ribbon.All good := by
  obtain ⟨connection, there, rfl⟩ := Option.map_eq_some_iff.mp listed
  exact known connection (List.mem_of_find?_eq_some there)

end Connections

namespace Network

variable {network : Network α} (known : network.All good) {raw : RawShapes α}
  (drawn : ∀ entry ∈ raw, entry.2.All good)
include known drawn

omit [Scalar α] [IsPrecision good] in
theorem All.rawShape (id : LaneId) : Yields (Polyline.All good) (network.rawShape raw id) := by
  unfold Network.rawShape
  split
  next shape found => exact yields_ok (drawn _ (List.mem_of_find?_eq_some found))
  · exact known.laneShape id

theorem All.connectorShape (plan : CurvePlan α) (source : LaneId) (lanes : Nat) (target : LaneId) :
    Yields (Polyline.All good) (network.connectorShape raw plan source lanes target) := by
  unfold Network.connectorShape
  split
  · refine (known.rawShape drawn source).bind fun left first => ?_
    exact (known.rawShape drawn target).bind fun entered last => all_smoothCurve first last _
  · refine (known.laneShape source).bind fun left first => ?_
    exact (known.laneShape target).bind fun entered last => yields_ok (all_straightLink first last)

theorem All.connectEdge (plan : CurvePlan α) (source : LaneId) {found : Connections α}
    (before : found.All good) (edge : EdgeId) :
    Yields (Connections.All good) (network.connectEdge raw plan source found edge) := by
  refine yields_bind fun lanes => yields_bind fun targets => ?_
  refine Yields.foldlM before fun found target _ before => ?_
  refine (known.connectorShape drawn plan source lanes target).bind fun shape here => ?_
  exact (Ribbon.all_ofShape here).bind fun ribbon made => yields_ok (before.insert made)

theorem All.connections (source : LaneId) :
    Yields (fun noted => noted.value.All good) (network.connections raw source) := by
  have start : (Connections.none source).All good := nofun
  unfold Network.connections
  split
  · exact yields_ok start
  · refine Yields.bind (yields_bind fun plan => ?_) fun found each => yields_ok each
    exact Yields.foldlM start fun found edge _ before =>
      known.connectEdge drawn plan source before edge

end Network

end RoadSketch
