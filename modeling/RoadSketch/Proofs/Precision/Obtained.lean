import RoadSketch.Proofs.Precision.Documents
import RoadSketch.Proofs.Precision.Structures

/-!
# What can be obtained

Coordinates and distances come from numbers that are trimmed, from documents, and from operations on
what is there already. An operation trims every number that it computes and takes over the others,
so everything that can be obtained, in any number of steps, is trimmed or was loaded. Constants are
stored as they are written, whatever that is, so only those that the geometry declares are included.

Trimmed means less than one might expect. Numbers are trimmed after they were checked, and trimming
itself may overflow; and of very large numbers trimming does not settle at once.

## Main result

`Obtained.isTrimmed_or_isLoaded`: every coordinate and every distance that can be obtained is a
number. Within the range that is trimmed it is finite and trimming leaves it alone, unless it was
loaded: then it is finite.
-/
namespace RoadSketch

open Checked

variable {α : Type}

/-- Something that holds coordinates or distances. -/
inductive Item (α : Type) where
  | distance (a : Distance α)
  | point (p : Point α)
  | line (line : Line α)
  | shape (shape : Polyline α)
  | ribbon (ribbon : Ribbon α)
  | dashes (line : DashedLine α)
  | network (network : Network α)
  | connections (found : Connections α)

/-- All coordinates and distances that are stored in something have a property. -/
def Item.All (good : α → Prop) : Item α → Prop
  | .distance a => a.All good
  | .point p => p.All good
  | .line l => l.All good
  | .shape s => s.All good
  | .ribbon r => r.All good
  | .dashes d => d.All good
  | .network n => n.All good
  | .connections found => found.All good

variable [Scalar α]

/-! ### What one operation makes

One rule for every operation that gives something of some type, over items that are known. -/

section
variable (known : Item α → Prop)

inductive Distance.Made : Distance α → Prop
  -- Constants are stored as they are.
  | zero : Made .zero
  | tolerance : Made .tolerance
  | positionStep : Made .positionStep
  | ofMeters {x a} : ofMeters x = .ok a → Made a
  | add {a b c} : known (.distance a) → known (.distance b) → a.add b = .ok c → Made c
  | sub {a b c} : known (.distance a) → known (.distance b) → a.sub b = .ok c → Made c
  | neg {a c} : known (.distance a) → a.neg = .ok c → Made c
  | scale {a factor c} : known (.distance a) → a.scale factor = .ok c → Made c
  | divide {a divisor c} : known (.distance a) → a.divide divisor = .ok c → Made c
  | clamp {a low high} : known (.distance a) → known (.distance low) → known (.distance high) →
      Made (a.clamp low high)
  | between {p q a} : known (.point p) → known (.point q) → p.distanceTo q = .ok a → Made a
  | lineLength {line a} : known (.line line) → line.length = .ok a → Made a
  | alongLine {line p a} : known (.line line) → known (.point p) → line.nearestOffset p = .ok a →
      Made a
  | shapeLength {shape a} : known (.shape shape) → shape.length = .ok a → Made a
  | alongShape {shape p a} : known (.shape shape) → known (.point p) →
      shape.nearestOffset p = .ok a → Made a
  -- What is stored in other items can be read off them.
  | ofRibbon {ribbon a} : known (.ribbon ribbon) → a ∈ ribbon.lengths → Made a
  | ofDash {line run a} : known (.dashes line) → run ∈ line.runs → a ∈ run.lengths → Made a
  | dashLength {settings length a} : known (.distance length) →
      DashedLine.dashLength settings length = .ok a → Made a
  | pathStart {start startLength finish finishLength sameLane ends a} :
      (∀ d ∈ start, known (.distance d)) → (∀ d ∈ startLength, known (.distance d)) →
      (∀ d ∈ finish, known (.distance d)) → (∀ d ∈ finishLength, known (.distance d)) →
      adjustPathEnds start startLength finish finishLength sameLane = .ok ends → a ∈ ends.1 →
      Made a
  | pathFinish {start startLength finish finishLength sameLane ends a} :
      (∀ d ∈ start, known (.distance d)) → (∀ d ∈ startLength, known (.distance d)) →
      (∀ d ∈ finish, known (.distance d)) → (∀ d ∈ finishLength, known (.distance d)) →
      adjustPathEnds start startLength finish finishLength sameLane = .ok ends → a ∈ ends.2 →
      Made a

inductive Point.Made : Point α → Prop
  | ofCoordinates {x y p} : ofCoordinates x y = .ok p → Made p
  | project {p distance angle q} : known (.point p) → known (.distance distance) →
      p.project distance angle = .ok q → Made q
  | translate {p dx dy q} : known (.point p) → p.translate dx dy = .ok q → Made q
  | rotate {p angle q} : known (.point p) → p.rotate angle = .ok q → Made q
  | scaleAround {p center factor q} : known (.point p) → known (.point center) →
      p.scaleAround center factor = .ok q → Made q
  | start {line} : known (.line line) → Made line.start
  | finish {line} : known (.line line) → Made line.finish
  | atShare {line share p} : known (.line line) → line.pointAtShare share = .ok p → Made p
  | alongLine {line distance p} : known (.line line) → known (.distance distance) →
      line.pointAt distance = .ok p → Made p
  | intersection {l m p} : known (.line l) → known (.line m) → l.intersection m = .ok (some p) →
      Made p
  | ofShape {shape p} : known (.shape shape) → p ∈ shape.points → Made p
  | alongShape {shape distance p} : known (.shape shape) → known (.distance distance) →
      shape.pointAt? distance = .ok (some p) → Made p
  | besideShape {shape distance lateral p} : known (.shape shape) → known (.distance distance) →
      shape.pointBeside? distance lateral = .ok (some p) → Made p
  | centroid {shape p} : known (.shape shape) → shape.centroid? = .ok (some p) → Made p

inductive Line.Made : Line α → Prop
  | between {p q line} : known (.point p) → known (.point q) → between p q = .ok line → Made line
  | shift {line width moved} : known (.line line) → line.shift width = .ok moved → Made moved

inductive Polyline.Made : Polyline α → Prop
  | ofPoints {points} : (∀ p ∈ points, known (.point p)) → Made ⟨points⟩
  | append {shape p} : known (.shape shape) → known (.point p) → Made (shape.append p)
  | prepend {shape p} : known (.shape shape) → known (.point p) → Made (shape.prepend p)
  | extend {shape other} : known (.shape shape) → known (.shape other) → Made (shape.extend other)
  | reversed {shape} : known (.shape shape) → Made shape.reversed
  | closeLoop {shape} : known (.shape shape) → Made shape.closeLoop
  | rotate {shape angle turned} : known (.shape shape) → shape.rotate angle = .ok turned →
      Made turned
  | translate {shape dx dy moved} : known (.shape shape) → shape.translate dx dy = .ok moved →
      Made moved
  | scale {shape factor scaled} : known (.shape shape) → shape.scale factor = .ok scaled →
      Made scaled
  | shift {shape width moved} : known (.shape shape) → shape.shift width = .ok moved → Made moved
  | slice {shape start finish piece} : known (.shape shape) → known (.distance start) →
      known (.distance finish) → shape.slice start finish = .ok piece → Made piece
  | resample {shape step keepEnd spaced} : known (.shape shape) → known (.distance step) →
      shape.resample step keepEnd = .ok spaced → Made spaced
  | ring {center radius sides shape} : known (.point center) →
      ring center radius sides = .ok shape → Made shape
  | ofRibbon {ribbon} : known (.ribbon ribbon) → Made ribbon.shape
  | ofDash {line run} : known (.dashes line) → run ∈ line.runs → Made run.shape
  | ofJunction {network id shape} : known (.network network) →
      network.junctionShape id = .ok shape → Made shape
  | ofLane {network id shape} : known (.network network) → network.laneShape id = .ok shape →
      Made shape
  | curve {source target request shape} : known (.shape source) → known (.shape target) →
      smoothCurve source target request = .ok shape → Made shape

inductive Ribbon.Made : Ribbon α → Prop
  | empty : Made .empty
  | ofShape {shape ribbon} : known (.shape shape) → ofShape shape = .ok ribbon → Made ribbon
  | ofParts {shape bearings lengths} : known (.shape shape) →
      (∀ length ∈ lengths, known (.distance length)) → Made (.ofParts shape bearings lengths)
  | ofPoint {p bearing} : known (.point p) → Made (.ofPoint p bearing)
  | ofPosition {shape position lateral ribbon} : known (.shape shape) →
      known (.distance position) → ofPosition shape position lateral = .ok ribbon → Made ribbon
  | ofWindow {shape start finish lateral ribbon} : known (.shape shape) →
      known (.distance start) → known (.distance finish) →
      ofWindow shape start finish lateral = .ok ribbon → Made ribbon
  | ofTrims {shape start finish first last ribbon} : known (.shape shape) →
      (∀ d ∈ start, known (.distance d)) → (∀ d ∈ finish, known (.distance d)) →
      (∀ p ∈ first, known (.point p)) → (∀ p ∈ last, known (.point p)) →
      ofTrims shape start finish first last = .ok ribbon → Made ribbon
  | scale {ribbon factor scaled} : known (.ribbon ribbon) → ribbon.scale factor = .ok scaled →
      Made scaled
  | ofConnection {found target ribbon} : known (.connections found) →
      found.ribbon? target = some ribbon → Made ribbon

inductive DashedLine.Made : DashedLine α → Prop
  | empty : Made .empty
  | ofShape {settings shape close line} : known (.shape shape) →
      ofShape settings shape close = .ok line → Made line
  | redraw {settings shape close line} : known (.shape shape) →
      redraw settings shape close = .ok line → Made line
  | connectors {settings top joinStarts bottom joinEnds line} : known (.dashes top) →
      known (.dashes bottom) → connectors settings top joinStarts bottom joinEnds = .ok line →
      Made line
  | shift {line width moved} : known (.dashes line) → line.shift width = .ok moved → Made moved
  | invert {line} : known (.dashes line) → Made line.invert
  | withWidth {line width} : known (.dashes line) → Made (line.withWidth width)

/-- Networks are put together from shapes in any way. -/
inductive Network.Made : Network α → Prop
  | ofShapes {network} : (∀ junction ∈ network.junctions, known (.shape junction.shape)) →
      (∀ edge ∈ network.edges, ∀ lane ∈ edge.lanes, known (.shape lane.shape)) → Made network

inductive Connections.Made : Connections α → Prop
  | none {source} : Made (.none source)
  | ofLane {network raw source noted} : known (.network network) →
      (∀ entry ∈ raw, known (.shape entry.2)) → network.connections raw source = .ok noted →
      Made noted.value

/-- What one operation makes of known items. -/
def Item.Made : Item α → Prop
  | .distance a => a.Made known
  | .point p => p.Made known
  | .line l => l.Made known
  | .shape s => s.Made known
  | .ribbon r => r.Made known
  | .dashes d => d.Made known
  | .network n => n.Made known
  | .connections found => found.Made known

end

/-! ### What is made of precise items is precise -/

section
variable {known : Item α → Prop} {good : α → Prop} [IsPrecision good]
  (precise : ∀ item, known item → item.All good)
include precise

theorem Distance.Made.all {a : Distance α} (made : a.Made known) : a.All good := by
  cases made with
  | zero => exact all_zero good
  | tolerance => exact IsPrecision.tolerance
  | positionStep => exact all_positionStep good
  | ofMeters result => exact all_ofMeters good _ _ result
  | add _ _ result => exact all_ofMeters good _ _ result
  | sub _ _ result => exact all_ofMeters good _ _ result
  | neg _ result => exact all_ofMeters good _ _ result
  | scale _ result => exact all_ofMeters good _ _ result
  | divide _ result => exact all_divide good _ _ _ result
  | clamp here below above => exact All.clamp (precise _ here) (precise _ below) (precise _ above)
  | between _ _ result => exact all_ofMeters good _ _ result
  | lineLength _ result => exact Line.all_length good _ _ result
  | alongLine _ _ result => exact Line.all_nearestOffset good _ _ _ result
  | shapeLength _ result => exact Polyline.all_length good _ _ result
  | alongShape _ _ result => exact Polyline.all_nearestOffset _ _ _ result
  | ofRibbon here member => exact (precise _ here : Ribbon.All good _).lengths a member
  | ofDash here run member => exact ((precise _ here : DashedLine.All good _) _ run).lengths a member
  | dashLength _ result => exact DashedLine.all_dashLength _ _ _ result
  | pathStart start _ finish _ result member =>
    exact (all_adjustPathEnds (fun d here => precise _ (start d here))
      (fun d here => precise _ (finish d here)) _ _ _ _ result).1 a member
  | pathFinish start _ finish _ result member =>
    exact (all_adjustPathEnds (fun d here => precise _ (start d here))
      (fun d here => precise _ (finish d here)) _ _ _ _ result).2 a member

theorem Point.Made.all {p : Point α} (made : p.Made known) : p.All good := by
  cases made with
  | ofCoordinates result => exact all_ofCoordinates good _ _ _ result
  | project _ _ result => exact all_project good _ _ _ _ result
  | translate _ result => exact all_ofCoordinates good _ _ _ result
  | rotate _ result => exact all_ofCoordinates good _ _ _ result
  | scaleAround _ _ result => exact all_ofCoordinates good _ _ _ result
  | start here => exact (precise _ here : Line.All good _).start
  | finish here => exact (precise _ here : Line.All good _).finish
  | atShare _ result => exact Line.all_pointAtShare good _ _ _ result
  | alongLine _ _ result => exact Line.all_pointAt good _ _ _ result
  | intersection _ _ result => exact Line.all_intersection good _ _ _ result p rfl
  | ofShape here member => exact (precise _ here : Polyline.All good _) p member
  | alongShape here _ result => exact Polyline.All.pointAt? (precise _ here) _ _ result p rfl
  | besideShape here _ result => exact Polyline.All.pointBeside? (precise _ here) _ _ _ result p rfl
  | centroid here result => exact Polyline.All.centroid? (precise _ here) _ result p rfl

theorem Line.Made.all {line : Line α} (made : line.Made known) : line.All good := by
  cases made with
  | between first last result => exact all_between good (precise _ first) (precise _ last) _ result
  | shift _ result => exact all_shift good _ _ _ result

theorem Polyline.Made.all {shape : Polyline α} (made : shape.Made known) : shape.All good := by
  cases made with
  | ofPoints each => exact fun p member => precise _ (each p member)
  | append here added => exact All.append (precise _ here) (precise _ added)
  | prepend here added => exact All.prepend (precise _ here) (precise _ added)
  | extend here added => exact All.appendEach (precise _ here) (precise _ added)
  | reversed here => exact All.reversed (precise _ here)
  | closeLoop here => exact All.closeLoop (precise _ here)
  | rotate _ result => exact all_rotate good _ _ _ result
  | translate _ result => exact all_translate good _ _ _ _ result
  | scale here result => exact All.scale (precise _ here) _ _ result
  | shift here result => exact All.shift (precise _ here) _ _ result
  | slice here _ _ result => exact All.slice (precise _ here) _ _ _ result
  | resample here _ result => exact All.resample (precise _ here) _ _ _ result
  | ring _ result => exact all_ring _ _ _ _ result
  | ofRibbon here => exact (precise _ here : Ribbon.All good _).shape
  | ofDash here member => exact ((precise _ here : DashedLine.All good _) _ member).shape
  | ofJunction here result => exact Network.All.junctionShape (precise _ here) _ _ result
  | ofLane here result => exact Network.All.laneShape (precise _ here) _ _ result
  | curve first last result =>
    exact all_smoothCurve (precise _ first) (precise _ last) _ _ result

theorem Ribbon.Made.all {ribbon : Ribbon α} (made : ribbon.Made known) : ribbon.All good := by
  cases made with
  | empty => exact all_empty
  | ofShape here result => exact all_ofShape (precise _ here) _ result
  | ofParts here each =>
    exact ⟨precise _ here, fun length member => precise _ (each length member),
      by simp [Ribbon.ofParts]⟩
  | ofPoint here => exact all_ofPoint (precise _ here) _
  | ofPosition here _ result => exact all_ofPosition (precise _ here) _ _ _ result
  | ofWindow here _ _ result => exact all_ofWindow (precise _ here) _ _ _ _ result
  | ofTrims here _ _ first last result =>
    exact all_ofTrims (precise _ here) _ _ (fun p begins => precise _ (first p begins))
      (fun p ends => precise _ (last p ends)) _ result
  | scale here result => exact All.scale (precise _ here) _ _ result
  | ofConnection here listed => exact Connections.All.ribbon? (precise _ here) listed

theorem DashedLine.Made.all {line : DashedLine α} (made : line.Made known) : line.All good := by
  cases made with
  | empty => exact nofun
  | ofShape here result => exact all_ofShape (precise _ here) _ _ _ result
  | redraw here result => exact all_redraw (precise _ here) _ _ _ result
  | connectors top bottom result =>
    exact all_connectors (precise _ top) (precise _ bottom) _ _ _ _ result
  | shift here result => exact All.shift (precise _ here) _ _ result
  | invert here => exact All.invert (precise _ here)
  | withWidth here => exact (precise _ here : DashedLine.All good _)

omit [Scalar α] [IsPrecision good] in
theorem Network.Made.all {network : Network α} (made : network.Made known) : network.All good := by
  cases made with
  | ofShapes junctions lanes =>
    exact ⟨fun junction member => precise _ (junctions junction member),
      fun edge member lane there => precise _ (lanes edge member lane there)⟩

theorem Connections.Made.all {found : Connections α} (made : found.Made known) :
    found.All good := by
  cases made with
  | none => exact nofun
  | ofLane here raw result =>
    exact Network.All.connections (precise _ here) (fun entry member => precise _ (raw entry member))
      _ _ result

theorem Item.Made.all {item : Item α} (made : item.Made known) : item.All good := by
  cases item with
  | distance a => exact Distance.Made.all precise made
  | point p => exact Point.Made.all precise made
  | line l => exact Line.Made.all precise made
  | shape s => exact Polyline.Made.all precise made
  | ribbon r => exact Ribbon.Made.all precise made
  | dashes d => exact DashedLine.Made.all precise made
  | network n => exact Network.Made.all precise made
  | connections found => exact Connections.Made.all precise made

end

/-! ### Everything that is obtained -/

/-- Items that are loaded from some texts, or made of items that were obtained before. -/
inductive Obtained (texts : List String) : Item Float → Prop
  | load {file text : String} {network : Network Float} : text ∈ texts →
      Network.load file text = .ok network → Obtained texts (.network network)
  | make {item : Item Float} (known : Item Float → Prop) :
      (∀ other, known other → Obtained texts other) → item.Made known → Obtained texts item

def Polyline.coordinates (shape : Polyline α) : List α := shape.points.flatMap fun p => [p.x, p.y]

def Network.coordinates (network : Network α) : List α :=
  network.junctions.flatMap (·.shape.coordinates) ++
    network.edges.flatMap fun edge => edge.lanes.flatMap (·.shape.coordinates)

section
variable {good : α → Prop}
omit [Scalar α]

theorem Polyline.all_iff {shape : Polyline α} :
    shape.All good ↔ ∀ c ∈ shape.coordinates, good c := by
  simp only [All, coordinates, List.mem_flatMap, List.mem_cons, List.not_mem_nil, or_false]
  constructor
  · rintro known c ⟨p, member, rfl | rfl⟩
    · exact (known p member).x
    · exact (known p member).y
  · intro known p member
    exact ⟨known _ ⟨p, member, .inl rfl⟩, known _ ⟨p, member, .inr rfl⟩⟩

theorem Network.all_iff {network : Network α} :
    network.All good ↔ ∀ c ∈ network.coordinates, good c := by
  simp only [coordinates, List.forall_mem_append, List.forall_mem_flatMap, ← Polyline.all_iff]
  exact ⟨fun known => ⟨known.junctions, known.lanes⟩, fun known => ⟨known.1, known.2⟩⟩

end

/-- A coordinate of a network that one of some texts describes. It is finite, and otherwise what the
text says. -/
structure IsLoaded (texts : List String) (c : Float) : Prop where
  isFinite : c.isFinite
  isCoordinate : ∃ text ∈ texts, ∃ file network, Network.load file text = .ok network ∧
    c ∈ network.coordinates

variable {texts : List String}

theorem Network.isLoaded_coordinates {file text : String} (member : text ∈ texts)
    {network : Network Float} (loaded : load file text = .ok network) :
    ∀ c ∈ network.coordinates, IsLoaded texts c := by
  intro c coordinate
  have finite : network.All fun x : Float => x.isFinite := all_load (fun _ => id) loaded
  exact ⟨all_iff.mp finite c coordinate, text, member, file, network, loaded, coordinate⟩

instance : IsPrecision fun c => Double.IsTrimmed c ∨ IsLoaded texts c where
  trim _ finite := .inl (Double.isTrimmed_trimFloat finite)
  zero := .inl ⟨by decide +kernel, by decide +kernel, by decide +kernel⟩
  tolerance := .inl ⟨by decide +kernel, by decide +kernel, by decide +kernel⟩
  step := .inl ⟨by decide +kernel, by decide +kernel, by decide +kernel⟩

namespace Obtained

/-- Every coordinate and every distance in what was obtained is a number. If it is less than
`Double.trimmedRange`, it is finite and trimming leaves it alone, unless it is among those that were
loaded. Where nothing is loaded, there are none of these. -/
theorem isTrimmed_or_isLoaded {item : Item Float} (obtained : Obtained texts item) :
    item.All fun c => Double.IsTrimmed c ∨ IsLoaded texts c := by
  induction obtained with
  | load member loaded =>
    exact Network.all_iff.mpr fun c coordinate =>
      .inr (Network.isLoaded_coordinates member loaded c coordinate)
  | make known _ made ih => exact made.all ih

theorem isTrimmed_or_isLoaded_of_add : Obtained [] (.distance ⟨0.2⟩) ∧
    (Double.IsTrimmed 0.2 ∨ IsLoaded [] 0.2) := by
  have step : Obtained [] (.distance .positionStep) := .make (fun _ => False) nofun .positionStep
  have twice : Distance.positionStep.add .positionStep = .ok (⟨0.2⟩ : Distance Float) :=
    Distance.ofMeters_eq_ok_iff.mpr ⟨by decide +kernel, congrArg Distance.mk (by decide +kernel)⟩
  have sum : Obtained [] (.distance ⟨0.2⟩) := by
    refine .make (· = .distance .positionStep) ?_ (.add rfl rfl twice)
    rintro _ rfl
    exact step
  exact ⟨sum, sum.isTrimmed_or_isLoaded⟩

/-- The point `(1e305, 0)`, whose coordinates are finite before they are trimmed. -/
def farPoint : Point Float := ⟨Scalar.trim 1e305, Scalar.trim 0⟩

/-- A distance that trimming changes again and again. -/
def farDistance : Distance Float := ⟨Scalar.trim 408775417986.26807⟩

/-- A junction with a point that is less than the tolerance away from its trimmed place. -/
def fineNetwork : String := "[[[0, [[[0.00005, 0]]]]], []]"

/-- What is obtained may not be finite, and trimming may change it: a point that overflowed when it
was trimmed, a distance too large for trimming to settle, and a network as it was loaded. -/
theorem untrimmed :
    (Point.ofCoordinates 1e305 0 = .ok farPoint ∧ Obtained [] (.point farPoint) ∧
      ¬farPoint.x.isFinite) ∧
    (Distance.ofMeters 408775417986.26807 = .ok farDistance ∧
      Obtained [] (.distance farDistance) ∧
      trimFloat farDistance.meters != farDistance.meters) ∧
    ∃ network, Network.load "network.json" fineNetwork = .ok network ∧
      Obtained [fineNetwork] (.network network) ∧
      ∃ c ∈ network.coordinates, trimFloat c != c := by
  refine ⟨?_, ?_, ?_⟩
  · have made : Point.ofCoordinates 1e305 0 = .ok farPoint :=
      Point.ofCoordinates_eq_ok_iff.mpr ⟨⟨by decide +kernel, by decide +kernel⟩, rfl⟩
    exact ⟨made, .make (fun _ => False) nofun (.ofCoordinates made), by decide +kernel⟩
  · have made : Distance.ofMeters 408775417986.26807 = .ok farDistance :=
      Distance.ofMeters_eq_ok_iff.mpr ⟨by decide +kernel, rfl⟩
    exact ⟨made, .make (fun _ => False) nofun (.ofMeters made), by decide +kernel⟩
  · have differs : (Network.load "network.json" fineNetwork).toOption.any fun network =>
        network.coordinates.any fun c => trimFloat c != c := by decide +kernel
    generalize outcome : Network.load "network.json" fineNetwork = result at differs
    cases result with
    | error _ => cases differs
    | ok network =>
      obtain ⟨c, member, untrimmed⟩ := List.any_eq_true.mp differs
      exact ⟨network, rfl, .load List.mem_cons_self outcome, c, member, untrimmed⟩

end Obtained

end RoadSketch
