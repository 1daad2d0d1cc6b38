import RoadSketch.Contour
import RoadSketch.Double
import RoadSketch.Proofs.Dash.Alternation
import RoadSketch.Proofs.Dash.Measured
import RoadSketch.Proofs.Network.Lookup

/-!
# The pattern of an outline

Outlines of paths and edges are drawn on a layer of their own: the dashes of the top, of the bottom
and of the connectors, each behind its color. The colors alternate along each of the three.

## Main result

`outline_pattern`: every outline of a path, and of an edge with a lane, shows this pattern.
-/
namespace RoadSketch.Contour

variable {α : Type} [Scalar α]

/-- The sides of an outline along two shapes, each at some offset, and what joins them. -/
structure Sides (settings : Settings α) (topShape bottomShape : Polyline α)
    (topOffset bottomOffset : α) (joinStarts joinEnds : Bool)
    (top bottom connectors : DashedLine α) : Prop where
  topMade : ∃ line moved, DashedLine.ofShape settings topShape false = .ok line ∧
    line.shift topOffset = .ok moved ∧ top = moved.invert
  bottomMade : ∃ line, DashedLine.ofShape settings bottomShape false = .ok line ∧
    line.shift bottomOffset = .ok bottom
  joined : DashedLine.connectors settings top joinStarts bottom joinEnds = .ok connectors

/-- Which of the outermost lanes of an edge is at the top of its outline, and which at the bottom. -/
def outerLanes (first last : LaneId) : DrivingSide → LaneId × LaneId
  | .left => (last, first)
  | .right => (first, last)

/-- The sides of the outline of an edge follow its outermost lanes, half the width of a lane away.
A single lane is outlined as a path, with an exaggeration of 1. -/
def EdgeSides (settings : Settings α) (side : DrivingSide) (network : Network α)
    (first last : LaneId) (joinStarts joinEnds : Bool) (top bottom connectors : DashedLine α) :
    Prop :=
  ∃ topShape bottomShape topHalf bottomHalf,
    network.laneShape (outerLanes first last side).1 = .ok topShape ∧
    network.laneShape (outerLanes first last side).2 = .ok bottomShape ∧
    laneHalfWidth settings network (outerLanes first last side).1 = .ok topHalf ∧
    laneHalfWidth settings network (outerLanes first last side).2 = .ok bottomHalf ∧
    Sides settings topShape bottomShape
      (if first = last then topHalf * 1 else topHalf)
      (if first = last then -bottomHalf * 1 else -bottomHalf)
      joinStarts joinEnds top bottom connectors

/-- One box for every dash of the sides and of the connectors, in order and each behind its color.
The colors start over for the bottom, and for the connectors they start with the one that the last
dash of the bottom has. -/
def IsPattern (layer : α) (tint : Bool → Color) (width : α) (top bottom connectors : DashedLine α)
    (drawing : Drawing α) : Prop :=
  ∃ tops bottoms ends : Drawing α,
    List.Forall₂ (Command.IsBoxOf · width) top.dashes tops ∧
    List.Forall₂ (Command.IsBoxOf · width) bottom.dashes bottoms ∧
    List.Forall₂ (Command.IsBoxOf · width) connectors.dashes ends ∧
    drawing = .pushTransform :: .translate 0 0 layer ::
      (Drawing.painted (fun i => tint (i % 2 = 0)) tops ++
        Drawing.painted (fun i => tint (i % 2 = 0)) bottoms ++
        Drawing.painted (fun i => tint ((bottom.dashes.length + i) % 2 = 1)) ends) ++
      [.popTransform] ∧
    ∀ before : Drawing α, (before ++ drawing).toColoredBoxes = before.toColoredBoxes ++
      (Drawing.shown (fun i => tint (i % 2 = 0)) tops ++
        Drawing.shown (fun i => tint (i % 2 = 0)) bottoms ++
        Drawing.shown (fun i => tint ((bottom.dashes.length + i) % 2 = 1)) ends)

/-- The pattern of an outline of some kind: in the pair of colors of the kind, or all black. -/
structure IsOutline (kind : OutlineKind) (settings : Settings α) (width : α)
    (top bottom connectors : DashedLine α) (drawing : Drawing α) : Prop where
  pair : kind ≠ .remove → kind ≠ .select → ∃ first second,
    kind.colors? settings.dashes = some (first, second) ∧
    IsPattern kind.layer (fun isFirst => if isFirst then first else second) width
      top bottom connectors drawing
  plain : kind = .remove ∨ kind = .select →
    IsPattern kind.layer (fun _ => .black) width top bottom connectors drawing

/-! ### Colors of the three parts -/

theorem sides_eq_onLayer (kind : OutlineKind) (settings : Settings α)
    (top bottom connectors : DashedLine α) (width : Option α) :
    sides kind settings top bottom connectors width = Drawing.onLayer kind.layer
      (Drawing.painted (fun i => kind.tint settings.dashes (i % 2 = 0)) (top.boxes width) ++
        Drawing.painted (fun i => kind.tint settings.dashes (i % 2 = 0)) (bottom.boxes width) ++
        Drawing.painted
          (fun i => kind.tint settings.dashes (((bottom.boxes width).length + i) % 2 = 1))
          (connectors.boxes width)) := by
  cases colors : kind.colors? settings.dashes with
  | none =>
    simp only [sides, DashedLine.draw, alternating_of_none colors, OutlineKind.tint_of_none colors]
  | some pair =>
    have even (i : Nat) : (true ^^ decide (i % 2 = 1)) = decide (i % 2 = 0) := by
      rcases Nat.mod_two_eq_zero_or_one i with parity | parity <;> simp [parity]
    -- The state after the bottom is flipped once more before the connectors.
    have odd (n i : Nat) : (!decide (n % 2 = 0) ^^ decide (i % 2 = 1)) =
        decide ((n + i) % 2 = 1) := by
      rw [Nat.add_mod]
      rcases Nat.mod_two_eq_zero_or_one n with parity | parity <;>
        rcases Nat.mod_two_eq_zero_or_one i with other | other <;> simp [parity, other]
    simp only [sides, DashedLine.draw, alternating_of_pair colors, Alternation.start,
      Alternation.flip, even, odd]

/-- Three measured lines of one width make a pattern. -/
theorem sides_isPattern (kind : OutlineKind) (settings : Settings α)
    {top bottom connectors : DashedLine α} (topMeasured : top.Measured)
    (bottomMeasured : bottom.Measured) (connectorsMeasured : connectors.Measured)
    (width : Option α) (drawn : α) (topWidth : top.drawnWidth width = drawn)
    (bottomWidth : bottom.drawnWidth width = drawn)
    (connectorsWidth : connectors.drawnWidth width = drawn) :
    IsPattern kind.layer (kind.tint settings.dashes) drawn top bottom connectors
      (sides kind settings top bottom connectors width) := by
  have tops := topMeasured.boxes_isBoxOf width
  have bottoms := bottomMeasured.boxes_isBoxOf width
  have ends := connectorsMeasured.boxes_isBoxOf width
  rw [topWidth] at tops
  rw [bottomWidth] at bottoms
  rw [connectorsWidth] at ends
  refine ⟨_, _, _, tops, bottoms, ends, ?_, fun before => ?_⟩
  · rw [sides_eq_onLayer, bottoms.length_eq]
    rfl
  · rw [sides_eq_onLayer, bottoms.length_eq, Drawing.toColoredBoxes,
      Drawing.coloredBoxesFrom_append, Drawing.coloredBoxesFrom_onLayer,
      Drawing.coloredBoxesFrom_append, Drawing.coloredBoxesFrom_append]
    simp only [Drawing.coloredBoxesFrom_painted, Drawing.toColoredBoxes]

/-! ### Main result -/

/-- The width of the dashes of an outline: a given one if it is positive. -/
def dashWidth (settings : Settings α) (width : Option α) : α :=
  (width.filter fun w => decide (w > 0)).getD settings.dashes.width

theorem Sides.isOutline {settings : Settings α} {topShape bottomShape : Polyline α}
    {topOffset bottomOffset : α} {joinStarts joinEnds : Bool} {top bottom connectors : DashedLine α}
    (made : Sides settings topShape bottomShape topOffset bottomOffset joinStarts joinEnds
      top bottom connectors) (kind : OutlineKind) (width : Option α) :
    IsOutline kind settings (dashWidth settings width) top bottom connectors
      (sides kind settings top bottom connectors width) := by
  obtain ⟨⟨topLine, topMoved, topMade, topShifted, rfl⟩, ⟨bottomLine, bottomMade, bottomShifted⟩,
    joined⟩ := made
  obtain ⟨topMeasured, topWidth⟩ := DashedLine.shift_eq_ok topShifted
  obtain ⟨bottomMeasured, bottomWidth⟩ := DashedLine.shift_eq_ok bottomShifted
  obtain ⟨connectorsMeasured, connectorsWidth⟩ := DashedLine.connectors_eq_ok joined
  rw [(DashedLine.ofShape_eq_ok topMade).2] at topWidth
  rw [(DashedLine.ofShape_eq_ok bottomMade).2] at bottomWidth
  have pattern := sides_isPattern kind settings topMeasured.invert bottomMeasured
    connectorsMeasured width (dashWidth settings width)
    (by rw [DashedLine.drawnWidth, DashedLine.invert, topWidth, dashWidth])
    (by rw [DashedLine.drawnWidth, bottomWidth, dashWidth])
    (by rw [DashedLine.drawnWidth, connectorsWidth, dashWidth])
  constructor
  · intro noRemove noSelect
    cases colors : kind.colors? settings.dashes with
    | none => exact absurd (OutlineKind.colors?_eq_none.mp colors) (by simp [noRemove, noSelect])
    | some pair => exact ⟨pair.1, pair.2, rfl, OutlineKind.tint_of_pair colors ▸ pattern⟩
  · intro plain
    exact OutlineKind.tint_of_none (OutlineKind.colors?_eq_none.mpr plain) ▸ pattern

theorem path_pattern {kind : OutlineKind} {settings : Settings α} {shape : Polyline α}
    {width exaggeration : α} {joinStarts joinEnds : Bool} {lineWidth : Option α}
    {drawing : Drawing α}
    (drawn : path kind settings shape width exaggeration joinStarts joinEnds lineWidth =
      .ok drawing) :
    ∃ top bottom connectors,
      Sides settings shape shape (width * exaggeration) (-width * exaggeration) joinStarts joinEnds
        top bottom connectors ∧
      IsOutline kind settings (dashWidth settings lineWidth) top bottom connectors drawing := by
  simp only [path, Checked.bind_eq_ok, Checked.pure_eq_ok] at drawn
  obtain ⟨line, made, moved, up, bottom, down, connectors, joined, rfl⟩ := drawn
  have parts : Sides settings shape shape (width * exaggeration) (-width * exaggeration)
      joinStarts joinEnds moved.invert bottom connectors :=
    ⟨⟨line, moved, made, up, rfl⟩, ⟨line, made, down⟩, joined⟩
  exact ⟨moved.invert, bottom, connectors, parts, parts.isOutline kind lineWidth⟩

theorem lanePair_pattern {kind : OutlineKind} {settings : Settings α} {network : Network α}
    {topLane bottomLane : LaneId} {joinStarts joinEnds : Bool} {drawing : Drawing α}
    (drawn : lanePair kind settings network topLane bottomLane joinStarts joinEnds = .ok drawing) :
    ∃ topShape bottomShape topHalf bottomHalf top bottom connectors,
      network.laneShape topLane = .ok topShape ∧ network.laneShape bottomLane = .ok bottomShape ∧
      laneHalfWidth settings network topLane = .ok topHalf ∧
      laneHalfWidth settings network bottomLane = .ok bottomHalf ∧
      Sides settings topShape bottomShape topHalf (-bottomHalf) joinStarts joinEnds
        top bottom connectors ∧
      IsOutline kind settings (dashWidth settings none) top bottom connectors drawing := by
  simp only [lanePair, Checked.bind_eq_ok, Checked.pure_eq_ok] at drawn
  obtain ⟨topShape, topFound, topLine, topMade, bottomShape, bottomFound, bottomLine, bottomMade,
    topHalf, topWide, moved, up, bottomHalf, bottomWide, bottom, down, connectors, joined, rfl⟩ :=
    drawn
  have parts : Sides settings topShape bottomShape topHalf (-bottomHalf) joinStarts joinEnds
      moved.invert bottom connectors :=
    ⟨⟨topLine, moved, topMade, up, rfl⟩, ⟨bottomLine, bottomMade, down⟩, joined⟩
  exact ⟨topShape, bottomShape, topHalf, bottomHalf, moved.invert, bottom, connectors, topFound,
    bottomFound, topWide, bottomWide, parts, parts.isOutline kind none⟩

theorem edge_pattern {kind : OutlineKind} {settings : Settings α} {options : EditorOptions}
    {network : Network α} {id : EdgeId} {joinStarts joinEnds : Bool} {first : LaneId}
    {rest : List LaneId} {noted : Noted α (Drawing α)}
    (listed : network.lanesOf id = .ok (first :: rest))
    (drawn : edge kind settings options network id joinStarts joinEnds = .ok noted) :
    noted.warnings = [] ∧ ∃ top bottom connectors,
      EdgeSides settings options.drivingSide network first (rest.getLastD first) joinStarts joinEnds
        top bottom connectors ∧
      IsOutline kind settings (dashWidth settings none) top bottom connectors noted.value := by
  simp only [edge, listed, Checked.ok_bind] at drawn
  cases rest with
  | nil =>
    simp only [Checked.bind_eq_ok, Checked.pure_eq_ok] at drawn
    obtain ⟨shape, found, half, wide, drawing, drawn, rfl⟩ := drawn
    obtain ⟨top, bottom, connectors, parts, outline⟩ := path_pattern drawn
    have only : outerLanes first first options.drivingSide = (first, first) := by
      cases options.drivingSide <;> rfl
    refine ⟨rfl, top, bottom, connectors, ⟨shape, shape, half, half, ?_⟩, outline⟩
    simp only [List.getLastD_nil, only, if_pos]
    exact ⟨found, found, wide, wide, parts⟩
  | cons second rest =>
    simp only [Checked.bind_eq_ok, Checked.pure_eq_ok] at drawn
    obtain ⟨drawing, drawn, rfl⟩ := drawn
    have different : first ≠ rest.getLastD second := by
      intro same
      have once := (List.nodup_cons.mp (Network.nodup_lanesOf listed)).1
      rw [same] at once
      exact once List.getLastD_mem_cons
    have outermost : lanePair kind settings network
        (outerLanes first (rest.getLastD second) options.drivingSide).1
        (outerLanes first (rest.getLastD second) options.drivingSide).2 joinStarts joinEnds =
        .ok drawing := by
      cases side : options.drivingSide with
      | left =>
        rw [side] at drawn
        exact drawn
      | right =>
        rw [side] at drawn
        exact drawn
    obtain ⟨topShape, bottomShape, topHalf, bottomHalf, top, bottom, connectors, topFound,
      bottomFound, topWide, bottomWide, parts, outline⟩ := lanePair_pattern outermost
    refine ⟨rfl, top, bottom, connectors, ⟨topShape, bottomShape, topHalf, bottomHalf, ?_⟩, outline⟩
    rw [List.getLastD_cons, if_neg different, if_neg different]
    exact ⟨topFound, bottomFound, topWide, bottomWide, parts⟩

/-- Every outline of a path shows the pattern, and so does every outline of an edge with a lane,
about which there are no warnings. -/
theorem outline_pattern (kind : OutlineKind) (settings : Settings α) (joinStarts joinEnds : Bool) :
    (∀ shape width exaggeration lineWidth drawing,
      path kind settings shape width exaggeration joinStarts joinEnds lineWidth = .ok drawing →
      ∃ top bottom connectors,
        Sides settings shape shape (width * exaggeration) (-width * exaggeration)
          joinStarts joinEnds top bottom connectors ∧
        IsOutline kind settings (dashWidth settings lineWidth) top bottom connectors drawing) ∧
    ∀ options network id first rest noted,
      network.lanesOf id = .ok (first :: rest) →
      edge kind settings options network id joinStarts joinEnds = .ok noted →
      noted.warnings = [] ∧ ∃ top bottom connectors,
        EdgeSides settings options.drivingSide network first (rest.getLastD first)
          joinStarts joinEnds top bottom connectors ∧
        IsOutline kind settings (dashWidth settings none) top bottom connectors noted.value :=
  ⟨fun _ _ _ _ _ drawn => path_pattern drawn,
    fun _ _ _ _ _ _ listed drawn => edge_pattern listed drawn⟩

/-- A road with two lanes that are drawn without a width. -/
def narrowRoad : Network Float where
  junctions := [⟨⟨0⟩, ⟨[⟨0, 0⟩]⟩⟩, ⟨⟨1⟩, ⟨[⟨10, 0⟩]⟩⟩]
  edges := [⟨⟨0⟩, ⟨0⟩, ⟨1⟩,
    [⟨⟨[⟨0, 0⟩, ⟨10, 0⟩]⟩, 0⟩, ⟨⟨[⟨0, 3⟩, ⟨4, 3⟩, ⟨4, 3⟩, ⟨10, 3⟩]⟩, 0⟩], none⟩]

theorem outline_pattern_of_narrowRoad :
    (∃ drawing, path .remove (.standard : Settings Float) ⟨[⟨0, 0⟩, ⟨3, 4⟩]⟩ 0 2 true true
        (some 1) = .ok drawing ∧
      ∃ top bottom connectors,
        IsOutline .remove .standard (dashWidth .standard (some 1)) top bottom connectors drawing) ∧
    ∃ noted, edge .front .standard .standard narrowRoad ⟨0⟩ true true = .ok noted ∧
      ∃ top bottom connectors,
        IsOutline .front .standard (dashWidth .standard none) top bottom connectors
          noted.value := by
  have pattern (kind : OutlineKind) := outline_pattern kind (.standard : Settings Float) true true
  constructor
  · refine (Checked.exists_of_isOk ?_).imp fun drawing drawn => ⟨drawn, ?_⟩
    · decide +kernel
    · obtain ⟨top, bottom, connectors, _, outline⟩ := (pattern .remove).1 _ _ _ _ _ drawn
      exact ⟨top, bottom, connectors, outline⟩
  · refine (Checked.exists_of_isOk ?_).imp fun noted drawn => ⟨drawn, ?_⟩
    · decide +kernel
    · obtain ⟨_, top, bottom, connectors, _, outline⟩ :=
        (pattern .front).2 _ _ _ ⟨⟨0⟩, 0⟩ [⟨⟨0⟩, 1⟩] _ rfl drawn
      exact ⟨top, bottom, connectors, outline⟩

end RoadSketch.Contour
