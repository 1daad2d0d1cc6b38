import RoadSketch.Canvas.Command
import RoadSketch.Double

/-!
# Colored boxes

The color that a box is drawn in is the latest one set before it. A drawing that sets a color for
every box shows them in these colors, whatever was drawn before. If there are fewer colors than boxes
then the last color stays.

## Main result

`toColoredBoxes_coloredBoxes`: which boxes are shown along a shape, and in which colors.
-/
namespace RoadSketch.Drawing

variable {α : Type}

/-- The color that is set at the end of a drawing. -/
def lastColor (color : Color) : Drawing α → Color
  | [] => color
  | .setColor next :: rest => lastColor next rest
  | _ :: rest => lastColor color rest

theorem coloredBoxesFrom_append (color : Color) (early late : Drawing α) :
    coloredBoxesFrom color (early ++ late) =
      coloredBoxesFrom color early ++ coloredBoxesFrom (lastColor color early) late := by
  induction early generalizing color with
  | nil => rfl
  | cons command rest ih => cases command <;> simp [coloredBoxesFrom, lastColor, ih]

/-- The boxes of a drawing on a layer of its own are its boxes. -/
theorem coloredBoxesFrom_onLayer [Scalar α] (color : Color) (layer : α) (drawing : Drawing α) :
    coloredBoxesFrom color (onLayer layer drawing) = coloredBoxesFrom color drawing := by
  simp [onLayer, isolated, coloredBoxesFrom, coloredBoxesFrom_append]

/-- Commands, each behind a color that depends on its place. -/
def painted (color : Nat → Color) (boxes : Drawing α) : Drawing α :=
  boxes.zipIdx.flatMap fun (box, i) => [.setColor (color i), box]

/-- What commands show, each in a color that depends on its place. -/
def shown (color : Nat → Color) (boxes : Drawing α) : List (ColoredBox α) :=
  boxes.zipIdx.flatMap fun (box, i) => coloredBoxesFrom (color i) [box]

@[simp] theorem painted_nil (color : Nat → Color) : painted color ([] : Drawing α) = [] := rfl

theorem painted_cons (color : Nat → Color) (box : Command α) (boxes : Drawing α) :
    painted color (box :: boxes) =
      .setColor (color 0) :: box :: painted (fun i => color (i + 1)) boxes := by
  simp [painted, List.zipIdx_succ, List.flatMap_map]

@[simp] theorem shown_nil (color : Nat → Color) : shown color ([] : Drawing α) = [] := rfl

theorem shown_cons (color : Nat → Color) (box : Command α) (boxes : Drawing α) :
    shown color (box :: boxes) =
      coloredBoxesFrom (color 0) [box] ++ shown (fun i => color (i + 1)) boxes := by
  simp [shown, List.zipIdx_succ, List.flatMap_map]

/-- The color set before painted commands has no effect on them. -/
theorem coloredBoxesFrom_painted (start : Color) (color : Nat → Color) (boxes : Drawing α) :
    coloredBoxesFrom start (painted color boxes) = shown color boxes := by
  induction boxes generalizing start color with
  | nil => rfl
  | cons box rest ih =>
    rw [painted_cons, shown_cons, coloredBoxesFrom]
    have first := coloredBoxesFrom_append (color 0) [box] (painted (fun i => color (i + 1)) rest)
    rw [ih] at first
    exact first

/-! ### Colors that run out -/

/-- Commands, each behind the next color for as long as there are any. -/
def colored (colors : List Color) (boxes : Drawing α) : Drawing α :=
  boxes.zipIdx.flatMap fun (box, i) =>
    match colors[i]? with
    | some color => [.setColor color, box]
    | none => [box]

/-- The color at some place, the last one if there are fewer, and without any the one in force. -/
def colorAt (start : Color) (colors : List Color) (i : Nat) : Color :=
  (colors[i]?.or colors.getLast?).getD start

/-- The box with some origin, bearing and length. -/
def boxOf [Scalar α] (width : α) : Point α × α × Distance α → Command α
  | (origin, bearing, length) => .box origin bearing length width 0

/-- The box with some origin, bearing and length, in some color. -/
def shownBox (width : α) (color : Color) : Point α × α × Distance α → ColoredBox α
  | (origin, bearing, length) => ⟨color, origin, bearing, length, width⟩

theorem colored_nil (boxes : Drawing α) : colored [] boxes = boxes :=
  List.map_eq_flatMap.symm.trans (List.zipIdx_map_fst 0 boxes)

theorem colored_cons (color : Color) (colors : List Color) (box : Command α) (boxes : Drawing α) :
    colored (color :: colors) (box :: boxes) = .setColor color :: box :: colored colors boxes := by
  simp [colored, List.zipIdx_succ, List.flatMap_map]

theorem colorAt_cons_succ (start color : Color) (colors : List Color) (i : Nat) :
    colorAt start (color :: colors) (i + 1) = colorAt color colors i := by
  rw [colorAt, colorAt, List.getElem?_cons_succ, List.getLast?_cons]
  cases colors[i]? <;> rfl

theorem getElem?_eq_colorAt (start : Color) {colors : List Color} (present : colors ≠ [])
    (i : Nat) : colors[min i (colors.length - 1)]? = some (colorAt start colors i) := by
  have positive := List.length_pos_iff.mpr present
  rcases Nat.lt_or_ge i colors.length with within | beyond
  · rw [Nat.min_eq_left (by omega), colorAt, List.getElem?_eq_getElem within]
    rfl
  · rw [Nat.min_eq_right (by omega), colorAt, List.getElem?_eq_none beyond, Option.none_or,
      List.getLast?_eq_getElem?, List.getElem?_eq_getElem (by omega)]
    rfl

section
variable [Scalar α]

theorem boxes_eq_map (shape : Polyline α) (bearings : List α) (lengths : List (Distance α))
    (width : α) : boxes shape bearings lengths width =
      (shape.points.zip (bearings.zip lengths)).map (boxOf width) := rfl

theorem coloredBoxes_eq_colored (shape : Polyline α) (bearings : List α)
    (lengths : List (Distance α)) (colors : List Color) (width : α) :
    coloredBoxes shape bearings lengths colors width =
      colored colors (boxes shape bearings lengths width) := rfl

/-- Behind the next color each, boxes are shown in the color at their place. -/
theorem coloredBoxesFrom_colored (start : Color) (colors : List Color)
    (parts : List (Point α × α × Distance α)) (width : α) :
    coloredBoxesFrom start (colored colors (parts.map (boxOf width))) =
      shown (colorAt start colors) (parts.map (boxOf width)) := by
  -- For every color in force, as it is another one behind each box.
  induction parts generalizing start colors with
  | nil => rfl
  | cons part rest ih =>
    rw [List.map_cons, shown_cons]
    cases colors with
    | nil =>
      have others := ih start []
      rw [colored_nil] at others ⊢
      exact congrArg (shownBox width start part :: ·) others
    | cons color colors =>
      rw [colored_cons, funext (colorAt_cons_succ start color colors), ← ih color colors]
      rfl

theorem shown_eq_map (color : Nat → Color) (parts : List (Point α × α × Distance α)) (width : α) :
    shown color (parts.map (boxOf width)) =
      parts.zipIdx.map fun (part, i) => shownBox width (color i) part := by
  rw [shown, List.zipIdx_map, List.flatMap_map, List.map_eq_flatMap]
  rfl

theorem getElem?_shown (color : Nat → Color) (parts : List (Point α × α × Distance α)) (width : α)
    (i : Nat) : (shown color (parts.map (boxOf width)))[i]? =
      parts[i]?.map (shownBox width (color i)) := by
  rw [shown_eq_map, List.getElem?_map, List.getElem?_zipIdx, Option.map_map, Nat.zero_add]
  rfl

/-! ### Main result -/

/-- The boxes that are shown of a shape with colors come after those that were shown before. There
is one for every point that has a bearing and a length, in the color at its place or else the last
one, whatever the color was before. Without any colors the boxes are drawn as they are. -/
theorem toColoredBoxes_coloredBoxes (drawing : Drawing α) (shape : Polyline α) (bearings : List α)
    (lengths : List (Distance α)) (colors : List Color) (width : α) :
    (colors ≠ [] → ∃ added,
      (drawing ++ coloredBoxes shape bearings lengths colors width).toColoredBoxes =
        drawing.toColoredBoxes ++ added ∧
      added.length = min shape.points.length (min bearings.length lengths.length) ∧
      ∀ i box, added[i]? = some box →
        shape.points[i]? = some box.origin ∧ bearings[i]? = some box.bearing ∧
        lengths[i]? = some box.length ∧ box.width = width ∧
        colors[min i (colors.length - 1)]? = some box.color) ∧
    (colors = [] → coloredBoxes shape bearings lengths colors width =
      boxes shape bearings lengths width) := by
  refine ⟨fun present => ?_, ?_⟩
  · refine ⟨_, coloredBoxesFrom_append .black drawing _, ?_⟩
    rw [coloredBoxes_eq_colored, boxes_eq_map, coloredBoxesFrom_colored]
    refine ⟨by simp [shown_eq_map], fun i box here => ?_⟩
    rw [getElem?_shown, Option.map_eq_some_iff] at here
    obtain ⟨part, placed, rfl⟩ := here
    obtain ⟨origin, others⟩ := List.getElem?_zip_eq_some.mp placed
    obtain ⟨bearing, length⟩ := List.getElem?_zip_eq_some.mp others
    exact ⟨origin, bearing, length, rfl, getElem?_eq_colorAt _ present i⟩
  · rintro rfl
    exact colored_nil _

end

/-- A cyan box. -/
def marker : Drawing Float := [.setColor .cyan, .box ⟨0, 0⟩ 90 ⟨1⟩ 1 0]

/-- A road in two colors, with four points but only three bearings. -/
theorem toColoredBoxes_coloredBoxes_of_stripes :
    [Color.pureRed, Color.pureBlue] ≠ [] ∧
    ∃ added, (marker ++ coloredBoxes ⟨[⟨0, 0⟩, ⟨10, 0⟩, ⟨10, 10⟩, ⟨0, 10⟩]⟩ [90, 180, 270]
        [⟨10⟩, ⟨10⟩, ⟨10⟩, ⟨10⟩] [.pureRed, .pureBlue] (1 / 2)).toColoredBoxes =
        marker.toColoredBoxes ++ added ∧
      added.length = 3 ∧ ∀ box, added[2]? = some box → box.color = .pureBlue := by
  have present : [Color.pureRed, Color.pureBlue] ≠ [] := List.cons_ne_nil _ _
  obtain ⟨added, shown, count, each⟩ := (toColoredBoxes_coloredBoxes marker
    ⟨[⟨0, 0⟩, ⟨10, 0⟩, ⟨10, 10⟩, ⟨0, 10⟩]⟩ [90, 180, 270] [⟨10⟩, ⟨10⟩, ⟨10⟩, ⟨10⟩]
    [.pureRed, .pureBlue] (1 / 2)).1 present
  refine ⟨present, added, shown, count, fun box here => ?_⟩
  obtain ⟨_, _, _, _, last⟩ := each 2 box here
  exact (Option.some.inj last).symm

end RoadSketch.Drawing
