import RoadSketch.Double
import RoadSketch.Figure
import RoadSketch.Proofs.Canvas.Frames
import RoadSketch.Proofs.Checked

/-!
# Figures leave the canvas as it was

Every figure is drawn in frames of its own: its pushes and pops match, its transforms lie between
them, and afterwards the transforms in force are those from before.

## Main result

`addAll_leavesTransforms`: this holds of each of the figures that are added to a drawing, and a
drawing made of figures is balanced.
-/
namespace RoadSketch

variable {α : Type} [Scalar α]

namespace Drawing

/-! ### Boxes leave the transforms alone -/

theorem boxes_marks (shape : Polyline α) (bearings : List α) (lengths : List (Distance α))
    (width : α) : ∀ command ∈ boxes shape bearings lengths width, command.isMark := by
  intro command member
  obtain ⟨_, _, rfl⟩ := List.mem_map.mp member
  rfl

theorem coloredBoxes_marks (shape : Polyline α) (bearings : List α) (lengths : List (Distance α))
    (colors : List Color) (width : α) :
    ∀ command ∈ coloredBoxes shape bearings lengths colors width, command.isMark := by
  intro command member
  obtain ⟨⟨box, i⟩, place, member⟩ := List.mem_flatMap.mp member
  have marks : box.isMark :=
    boxes_marks shape bearings lengths width box (List.fst_mem_of_mem_zipIdx place)
  cases next : colors[i]? with
  | some color =>
    simp only [next, List.mem_cons, List.not_mem_nil, or_false] at member
    rcases member with rfl | rfl
    · rfl
    · exact marks
  | none =>
    simp only [next, List.mem_singleton] at member
    exact member ▸ marks

theorem framed_boxesAlong {shape : Polyline α} {width : α} {drawing : Drawing α}
    (drawn : boxesAlong shape width = .ok drawing) : Framed false drawing := by
  simp only [boxesAlong, Checked.bind_eq_ok, Checked.pure_eq_ok] at drawn
  obtain ⟨lengths, _, rfl⟩ := drawn
  exact framed_of_marks (boxes_marks _ _ _ _)

end Drawing

open Drawing

omit [Scalar α] in
theorem alternating_marks (dashes : DashSettings α) (kind : OutlineKind) (state : Alternation)
    {boxes : Drawing α} (marks : ∀ command ∈ boxes, command.isMark) :
    ∀ command ∈ (alternating dashes kind state boxes).1, command.isMark := by
  induction boxes generalizing state with
  | nil => simp [alternating]
  | cons box rest ih =>
    have others := ih (state.next dashes kind).2
      fun command member => marks command (List.mem_cons_of_mem box member)
    intro command member
    simp only [alternating, List.mem_cons] at member
    rcases member with rfl | rfl | member
    · rfl
    · exact marks _ List.mem_cons_self
    · exact others command member

theorem DashedLine.framed_draw (line : DashedLine α) (settings : Settings α) (kind : OutlineKind)
    (width : Option α) (state : Alternation) :
    Framed true (line.draw settings kind width state).1 := by
  apply framed_of_marks
  apply alternating_marks
  intro command member
  obtain ⟨run, _, member⟩ := List.mem_flatMap.mp member
  exact boxes_marks _ _ _ _ command member

/-! ### Contours -/

namespace Contour

theorem framed_sides (kind : OutlineKind) (settings : Settings α)
    (top bottom connectors : DashedLine α) (width : Option α) :
    Framed false (sides kind settings top bottom connectors width) :=
  .onLayer (((top.framed_draw ..).append (bottom.framed_draw ..)).append
    (connectors.framed_draw ..))

theorem framed_path {kind : OutlineKind} {settings : Settings α} {shape : Polyline α}
    {width exaggeration : α} {joinStarts joinEnds : Bool} {lineWidth : Option α}
    {drawing : Drawing α}
    (drawn : path kind settings shape width exaggeration joinStarts joinEnds lineWidth =
      .ok drawing) : Framed false drawing := by
  simp only [path, Checked.bind_eq_ok, Checked.pure_eq_ok] at drawn
  obtain ⟨_, _, _, _, _, _, _, _, rfl⟩ := drawn
  exact framed_sides ..

theorem framed_lanePair {kind : OutlineKind} {settings : Settings α} {network : Network α}
    {topLane bottomLane : LaneId} {joinStarts joinEnds : Bool} {drawing : Drawing α}
    (drawn : lanePair kind settings network topLane bottomLane joinStarts joinEnds = .ok drawing) :
    Framed false drawing := by
  simp only [lanePair, Checked.bind_eq_ok, Checked.pure_eq_ok] at drawn
  obtain ⟨_, _, _, _, _, _, _, _, _, _, _, _, _, _, _, _, _, _, rfl⟩ := drawn
  exact framed_sides ..

theorem framed_edge {kind : OutlineKind} {settings : Settings α} {options : EditorOptions}
    {network : Network α} {id : EdgeId} {joinStarts joinEnds : Bool} {noted : Noted α (Drawing α)}
    (drawn : edge kind settings options network id joinStarts joinEnds = .ok noted) :
    Framed false noted.value := by
  simp only [edge, Checked.bind_eq_ok] at drawn
  obtain ⟨lanes, _, drawn⟩ := drawn
  cases lanes with
  | nil =>
    cases drawn
    exact .nil
  | cons first lanes =>
    cases lanes with
    | nil =>
      simp only [Checked.bind_eq_ok, Checked.pure_eq_ok] at drawn
      obtain ⟨_, _, _, _, drawing, drawn, rfl⟩ := drawn
      exact framed_path drawn
    | cons second rest =>
      simp only [Checked.bind_eq_ok, Checked.pure_eq_ok] at drawn
      obtain ⟨drawing, drawn, rfl⟩ := drawn
      exact framed_lanePair drawn

theorem framed_closedShape {kind : OutlineKind} {settings : Settings α} {shape : Polyline α}
    {exaggeration : α} {lineWidth : Option α} {noted : Noted α (Drawing α)}
    (drawn : closedShape kind settings shape exaggeration lineWidth = .ok noted) :
    Framed false noted.value := by
  unfold closedShape at drawn
  split at drawn
  · cases drawn
    exact .nil
  · simp only [Checked.bind_eq_ok, Checked.pure_eq_ok] at drawn
    obtain ⟨_, _, dashed, _, rfl⟩ := drawn
    exact .onLayer (dashed.framed_draw ..)

theorem framed_circle {kind : OutlineKind} {settings : Settings α} {center : Point α}
    {radius exaggeration : α} {noted : Noted α (Drawing α)}
    (drawn : circle kind settings center radius exaggeration = .ok noted) :
    Framed false noted.value := by
  simp only [circle, Checked.bind_eq_ok] at drawn
  obtain ⟨ring, _, drawn⟩ := drawn
  exact framed_closedShape drawn

theorem framed_rectangle {kind : OutlineKind} {settings : Settings α} {position : Point α}
    {width height offsetX offsetY bearing exaggeration : α} {noted : Noted α (Drawing α)}
    (drawn : rectangle kind settings position width height offsetX offsetY bearing exaggeration =
      .ok noted) : Framed false noted.value := by
  simp only [rectangle, Checked.bind_eq_ok] at drawn
  obtain ⟨corners, _, drawn⟩ := drawn
  exact framed_closedShape drawn

end Contour

/-! ### Sketches -/

namespace Sketch

theorem framed_spot {view : View α} {shape : Polyline α} {width : α} {drawing : Drawing α}
    (drawn : spot view shape width = .ok drawing) : Framed false drawing := by
  simp only [spot, Checked.bind_eq_ok] at drawn
  obtain ⟨nearest?, _, drawn⟩ := drawn
  cases nearest? with
  | none =>
    cases drawn
    exact .nil
  | some p =>
    simp only [Checked.bind_eq_ok, Checked.pure_eq_ok] at drawn
    obtain ⟨radius, _, rfl⟩ := drawn
    exact .mark rfl .nil

theorem framed_ribbon {view : View α} {path : Ribbon α} {width : α} {drawing : Drawing α}
    (drawn : ribbon view path width = .ok drawing) : Framed false drawing := by
  unfold ribbon at drawn
  split at drawn
  · exact framed_spot drawn
  · split at drawn
    · cases drawn
      exact .mark rfl .nil
    · cases drawn
      exact framed_of_marks (boxes_marks _ _ _ _)

theorem framed_outline {shape : Polyline α} {width : α} {joined : Bool} {drawing : Drawing α}
    (drawn : outline shape width joined = .ok drawing) : Framed false drawing := by
  unfold outline at drawn
  split at drawn
  · cases drawn
    exact .nil
  · simp only [Checked.bind_eq_ok] at drawn
    obtain ⟨right, _, left, _, drawn⟩ := drawn
    split at drawn
    · exact framed_boxesAlong drawn
    · simp only [Checked.bind_eq_ok, Checked.pure_eq_ok] at drawn
      obtain ⟨first, firstDrawn, second, secondDrawn, rfl⟩ := drawn
      exact (framed_boxesAlong firstDrawn).append (framed_boxesAlong secondDrawn)

theorem framed_handle (circle : Circle α) (resolution : Nat) :
    Framed false (handle circle resolution) :=
  .onLayer (.mark rfl .nil)

theorem framed_endLabels (shape : Polyline α) (size : α) (color : Color) :
    Framed false (endLabels shape size color) := by
  unfold endLabels
  split
  · refine .mark rfl ?_
    split
    · exact .mark rfl .nil
    · exact .nil
  · exact .nil

theorem framed_handles {view : View α} {settings : Settings α} {shape : Polyline α}
    {pointColor textColor : Color} {radius exaggeration : α} {drawing : Drawing α}
    (drawn : handles view settings shape pointColor textColor radius exaggeration = .ok drawing) :
    Framed false drawing := by
  simp only [handles, Checked.bind_eq_ok, Checked.pure_eq_ok] at drawn
  obtain ⟨discs, made, rfl⟩ := drawn
  have discsFramed : Framed false discs.flatten := by
    apply Framed.flatten
    intro disc member
    obtain ⟨p, _, made⟩ := Checked.exists_of_mem_mapM made member
    simp only [Checked.bind_eq_ok, Checked.pure_eq_ok] at made
    obtain ⟨distance, _, rfl⟩ := made
    split
    · exact .nil
    · exact framed_handle ..
  refine .append (.mark rfl discsFramed) ?_
  split
  · exact .nil
  · exact framed_endLabels ..

theorem framed_hint {view : View α} {shape : Polyline α} {color : Color} {radius exaggeration : α}
    {drawing : Drawing α} (drawn : hint view shape color radius exaggeration = .ok drawing) :
    Framed false drawing := by
  unfold hint at drawn
  split at drawn
  · cases drawn
    exact .nil
  · simp only [Checked.bind_eq_ok] at drawn
    obtain ⟨nearest?, _, drawn⟩ := drawn
    cases nearest? with
    | none =>
      cases drawn
      exact .nil
    | some p =>
      simp only [Checked.bind_eq_ok] at drawn
      obtain ⟨taken, _, drawn⟩ := drawn
      split at drawn
      · cases drawn
        exact .nil
      · simp only [Checked.bind_eq_ok, Checked.pure_eq_ok] at drawn
        obtain ⟨distance, _, rfl⟩ := drawn
        exact .mark rfl (framed_handle ..)

theorem framed_lane {view : View α} {shape : Polyline α} {bearings : List α}
    {lengths : List (Distance α)} {colors : List Color} {width : α} {onlyContour : Bool}
    {drawing : Drawing α}
    (drawn : lane view shape bearings lengths colors width onlyContour = .ok drawing) :
    Framed false drawing := by
  unfold lane at drawn
  split at drawn
  · exact framed_spot drawn
  · split at drawn
    · exact framed_outline drawn
    · cases drawn
      exact framed_of_marks (coloredBoxes_marks _ _ _ _ _)

/-! Lines between elements move to another layer twice, but never leave their frame. -/

theorem framed_twoToneLine {start : Point α} {bearing : α} {length : Distance α} {color : Color}
    {drawing : Drawing α} (drawn : twoToneLine start bearing length color = .ok drawing) :
    Framed true drawing := by
  simp only [twoToneLine, Checked.bind_eq_ok, Checked.pure_eq_ok] at drawn
  obtain ⟨darker, _, rfl⟩ := drawn
  exact .mark rfl (.mark rfl (.move rfl (.mark rfl (.mark rfl .nil))))

theorem framed_stubArrow {arrows : ArrowSettings α} {tail tip : Point α} {color : Color}
    {drawing : Drawing α} (drawn : stubArrow arrows tail tip color = .ok drawing) :
    Framed true drawing := by
  simp only [stubArrow, Checked.bind_eq_ok, Checked.pure_eq_ok] at drawn
  obtain ⟨darker, _, rfl⟩ := drawn
  exact .mark rfl (.mark rfl (.move rfl (.mark rfl (.mark rfl .nil))))

theorem framed_fullLine {start finish : Point α} {color : Color} {drawing : Drawing α}
    (drawn : fullLine start finish color = .ok drawing) : Framed false drawing := by
  simp only [fullLine, Checked.bind_eq_ok, Checked.pure_eq_ok] at drawn
  obtain ⟨length, _, line, lineDrawn, rfl⟩ := drawn
  exact .onLayer (framed_twoToneLine lineDrawn)

theorem framed_stubLine {settings : Settings α} {start finish : Point α} {color : Color}
    {drawing : Drawing α} (drawn : stubLine settings start finish color = .ok drawing) :
    Framed false drawing := by
  simp only [stubLine, Checked.bind_eq_ok] at drawn
  obtain ⟨stub, _, line, lineDrawn, drawn⟩ := drawn
  have lineFramed := framed_twoToneLine lineDrawn
  split at drawn
  · simp only [Checked.bind_eq_ok, Checked.pure_eq_ok] at drawn
    obtain ⟨tip, _, arrow, arrowDrawn, rfl⟩ := drawn
    exact .onLayer (lineFramed.append (framed_stubArrow arrowDrawn))
  · cases drawn
    exact .onLayer (lineFramed.append .nil)

theorem framed_parentLine {view : View α} {settings : Settings α} {parent child : Point α}
    {color : Color} {whole : Bool} {drawing : Drawing α}
    (drawn : parentLine view settings parent child color whole = .ok drawing) :
    Framed false drawing := by
  unfold parentLine at drawn
  split at drawn
  · cases drawn
    exact .nil
  · split at drawn
    · exact framed_fullLine drawn
    · split at drawn
      · exact framed_stubLine drawn
      · cases drawn
        exact .nil

theorem framed_childLine {view : View α} {settings : Settings α} {child parent : Point α}
    {color : Color} {whole : Bool} {drawing : Drawing α}
    (drawn : childLine view settings child parent color whole = .ok drawing) :
    Framed false drawing := by
  unfold childLine at drawn
  split at drawn
  · cases drawn
    exact .nil
  · split at drawn
    · exact framed_fullLine drawn
    · exact framed_stubLine drawn

end Sketch

/-! ### Figures -/

theorem Figure.framed_draw {figure : Figure α} {drawing : Drawing α}
    (drawn : figure.draw = .ok drawing) : Framed false drawing := by
  cases figure with
  | edgeContour =>
    simp only [draw, Checked.bind_eq_ok, Checked.pure_eq_ok] at drawn
    obtain ⟨noted, drawn, rfl⟩ := drawn
    exact Contour.framed_edge drawn
  | closedContour =>
    simp only [draw, Checked.bind_eq_ok, Checked.pure_eq_ok] at drawn
    obtain ⟨noted, drawn, rfl⟩ := drawn
    exact Contour.framed_closedShape drawn
  | pathContour => exact Contour.framed_path drawn
  | circleContour =>
    simp only [draw, Checked.bind_eq_ok, Checked.pure_eq_ok] at drawn
    obtain ⟨noted, drawn, rfl⟩ := drawn
    exact Contour.framed_circle drawn
  | rectangleContour =>
    simp only [draw, Checked.bind_eq_ok, Checked.pure_eq_ok] at drawn
    obtain ⟨noted, drawn, rfl⟩ := drawn
    exact Contour.framed_rectangle drawn
  | ribbon => exact Sketch.framed_ribbon drawn
  | outline => exact Sketch.framed_outline drawn
  | handles => exact Sketch.framed_handles drawn
  | hint => exact Sketch.framed_hint drawn
  | lane => exact Sketch.framed_lane drawn
  | parentLine => exact Sketch.framed_parentLine drawn
  | childLine => exact Sketch.framed_childLine drawn

namespace Drawing

/-- A drawing that leaves the transforms as they were. Its pops never outnumber its pushes, and each
of its transforms lies between a push and the pop that belongs to it. -/
structure LeavesTransforms (drawing : Drawing α) : Prop where
  pops_le : ∀ early late, drawing = early ++ late →
    early.countP Command.isPop ≤ early.countP Command.isPush
  pops_eq : drawing.countP Command.isPop = drawing.countP Command.isPush
  enclosed : ∀ early command late, drawing = early ++ command :: late → command.isMove →
    Enclosed early late
  restores : ∀ stack : TransformStack α, stack.after? drawing = some stack

omit [Scalar α] in
theorem Framed.leavesTransforms {drawing : Drawing α} (framed : Framed false drawing) :
    LeavesTransforms drawing where
  pops_le := by
    rintro early late rfl
    exact framed.countP_isPop_le
  pops_eq := framed.countP_isPop
  enclosed early command late split moves := by
    rcases framed.move_cases split moves with enclosed | ⟨inside, _⟩
    · exact enclosed
    · cases inside
  restores := framed.restores

/-- Adding figures to a drawing puts what they look like behind it, one after another. -/
theorem addAll_eq_ok {start finish : Drawing α} {figures : List (Figure α)} :
    start.addAll figures = .ok finish ↔
      ∃ drawings, figures.mapM Figure.draw = .ok drawings ∧ start ++ drawings.flatten = finish := by
  induction figures generalizing start with
  | nil => simp [Drawing.addAll]
  | cons figure rest ih =>
    have step : Drawing.addAll start (figure :: rest) =
        Drawing.add start figure >>= fun next => Drawing.addAll next rest := rfl
    simp only [step, Drawing.add, List.mapM_cons, Checked.bind_eq_ok, Checked.pure_eq_ok, ih]
    constructor
    · rintro ⟨_, ⟨drawing, drawn, rfl⟩, others, rest, rfl⟩
      exact ⟨_, ⟨drawing, drawn, others, rest, rfl⟩, by simp⟩
    · rintro ⟨_, ⟨drawing, drawn, others, rest, rfl⟩, rfl⟩
      exact ⟨_, ⟨drawing, drawn, rfl⟩, others, rest, by simp⟩

/-- Adding figures to a drawing only appends to it, and what each figure appends leaves the
transforms as they were. So a drawing stays as balanced as it is, and one made of figures alone is
balanced. -/
theorem addAll_leavesTransforms {start finish : Drawing α} {figures : List (Figure α)}
    (drawn : start.addAll figures = .ok finish) :
    (∃ drawings,
      List.Forall₂ (fun figure drawing => figure.draw = .ok drawing ∧ LeavesTransforms drawing)
        figures drawings ∧
      finish = start ++ drawings.flatten) ∧
    finish.isBalanced = start.isBalanced ∧
    (start = [] → finish.isBalanced) := by
  obtain ⟨drawings, made, rfl⟩ := addAll_eq_ok.mp drawn
  have framed : ∀ drawing ∈ drawings, Framed false drawing := by
    intro drawing member
    obtain ⟨figure, _, looks⟩ := Checked.exists_of_mem_mapM made member
    exact Figure.framed_draw looks
  have unchanged := (Framed.flatten framed).isBalanced_append start
  refine ⟨⟨drawings, ?_, rfl⟩, unchanged, ?_⟩
  · refine (Checked.mapM_eq_ok.mp made).imp fun figure drawing looks => ⟨looks, ?_⟩
    exact (Figure.framed_draw looks).leavesTransforms
  · rintro rfl
    exact unchanged

/-- A shrunk contour, handles with labels, a hint, and lines to elements near and far. -/
def mixedFigures : List (Figure Float) :=
  let corner : Polyline Float := ⟨[⟨0, 0⟩, ⟨8, 0⟩, ⟨8, 6⟩]⟩
  let near : View Float := ⟨⟨4, 0⟩, 20, false, true⟩
  [.closedContour .green .standard corner 0.5 none,
    .handles near .standard corner .cyan .white 1 1,
    .hint near corner .yellow 1 1,
    .parentLine near .standard ⟨0, 0⟩ ⟨30, 40⟩ .magenta false,
    .childLine near .standard ⟨0, 0⟩ ⟨3, 0⟩ .orange false]

theorem addAll_leavesTransforms_of_mixedFigures : ∃ finish : Drawing Float,
    addAll [.translate 1 2 3, .pushTransform] mixedFigures = .ok finish ∧
    (∃ drawings,
      List.Forall₂ (fun figure drawing => figure.draw = .ok drawing ∧ LeavesTransforms drawing)
        mixedFigures drawings ∧
      finish = [.translate 1 2 3, .pushTransform] ++ drawings.flatten) ∧
    finish.isBalanced = false := by
  refine (Checked.exists_of_isOk ?_).imp fun finish drawn => ⟨drawn, ?_⟩
  · decide +kernel
  · obtain ⟨appended, unchanged, _⟩ := addAll_leavesTransforms drawn
    exact ⟨appended, unchanged⟩

end Drawing

end RoadSketch
