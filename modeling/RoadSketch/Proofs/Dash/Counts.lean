import RoadSketch.Double
import RoadSketch.Proofs.Dash.Gaps
import RoadSketch.Proofs.Dash.Measured
import RoadSketch.Proofs.Dash.Total
import RoadSketch.Proofs.Faults
import RoadSketch.Proofs.Order
import RoadSketch.Proofs.Polyline.Resample

/-!
# How long dashes are, and how many

The dashes of a line have the length that the settings say, unless the line is longer than 500
meters. Then they are as long as it takes to have 250 of them, up to rounding. As every segment
starts with a new dash, there may be one more for each of them, but there are never fewer.

## Main results

* `edit_eq_ofShape`: a short line that is drawn again is the line that would be drawn new, whatever
  it was before.
* `dashes_of_long`: a long line has 250 dashes, and at most one more for each segment.
-/
namespace RoadSketch

namespace DashRun

/-- Between two points there are as many dashes as it takes to have none longer than the step. -/
theorem exists_between_counted {p q : Point Exact} (grid : (Line.mk p q).OnGrid)
    {step : Distance Exact} (forward : 0 < step.meters.value) (offset : Int) :
    ∃ run, between p q step offset = .ok run ∧ run.shape.segments.length =
      ⌈(Line.mk p q).exactLength.value / step.meters.value⌉₊ := by
  by_cases same : p = q
  · -- Between equal points there is nothing to draw.
    subst same
    have none : (Line.mk p p).exactLength.value = 0 := by rw [Line.value_exactLength, dist_self]
    refine ⟨.blank offset, between_self p.isFinite step offset, ?_⟩
    rw [none, zero_div, Nat.ceil_zero]
    rfl
  · obtain ⟨run, made, drawn⟩ :=
      exists_between_of_resample (Polyline.resample_pair grid same forward true) offset
    refine ⟨run, made, ?_⟩
    rw [drawn, Polyline.length_segments, Polyline.length_samples, Nat.add_sub_cancel]

end DashRun

namespace DashedLine

/-! ### Counting dashes -/

/-- How many pieces segments are cut into, if none is to be longer than the step. -/
noncomputable def pieces (step : Distance Exact) (lines : List (Line Exact)) : ℕ :=
  (lines.map fun line => ⌈line.exactLength.value / step.meters.value⌉₊).sum

theorem pieces_cons (step : Distance Exact) (line : Line Exact) (lines : List (Line Exact)) :
    pieces step (line :: lines) =
      ⌈line.exactLength.value / step.meters.value⌉₊ + pieces step lines := List.sum_cons

theorem exists_ofSegments_counted (settings : Settings Exact) {shape : Polyline Exact}
    (grid : ∀ p ∈ shape.points, p.OnGrid) {step : Distance Exact}
    (forward : 0 < step.meters.value) :
    ∃ line, ofSegments settings shape step = .ok line ∧
      line.dashes.length = pieces step shape.segments := by
  have some : Nonempty (DashRun Exact) := ⟨.blank 0⟩
  choose! run made counted using fun line (member : line ∈ shape.segments) =>
    DashRun.exists_between_counted (Polyline.onGrid_of_mem_segments grid member) forward (-1)
  refine ⟨⟨shape.segments.map run, settings.dashes.width⟩, ?_, ?_⟩
  · rw [ofSegments, Checked.mapM_eq_map made]
    rfl
  · rw [dashes, List.length_flatMap, List.map_map, pieces]
    exact congrArg List.sum (List.map_congr_left counted)

/-- Cutting every segment on its own takes no fewer pieces than the whole would take. -/
theorem exactTotal_div_le_pieces (step : Distance Exact) (lines : List (Line Exact)) :
    Polyline.exactTotal lines / step.meters.value ≤ pieces step lines := by
  induction lines with
  | nil => simp [Polyline.exactTotal, pieces]
  | cons line rest ih =>
    rw [Polyline.exactTotal_cons, pieces_cons, add_div, Nat.cast_add]
    exact add_le_add (Nat.le_ceil _) ih

/-- Every segment adds less than one piece by being cut on its own. -/
theorem pieces_le {step : Distance Exact} (forward : 0 < step.meters.value)
    (lines : List (Line Exact)) :
    pieces step lines ≤ Polyline.exactTotal lines / step.meters.value + lines.length := by
  induction lines with
  | nil => simp [Polyline.exactTotal, pieces]
  | cons line rest ih =>
    have first := Nat.ceil_lt_add_one (div_nonneg line.exactLength_nonneg forward.le)
    rw [Polyline.exactTotal_cons, pieces_cons, add_div, Nat.cast_add, List.length_cons,
      Nat.cast_succ]
    linarith

/-- If the whole takes about 250 pieces, its segments take no fewer, and at most one more each. -/
theorem pieces_bounds {step : Distance Exact} (forward : 0 < step.meters.value)
    {lines : List (Line Exact)} (above : 249 < Polyline.exactTotal lines / step.meters.value)
    (below : Polyline.exactTotal lines / step.meters.value < 251) :
    250 ≤ pieces step lines ∧ pieces step lines ≤ 250 + lines.length := by
  have enough := exactTotal_div_le_pieces step lines
  have few := pieces_le forward lines
  have least : (249 : ℝ) < pieces step lines := above.trans_le enough
  have most : (pieces step lines : ℝ) < 251 + lines.length := by linarith
  -- Being whole numbers, the counts leave no room between these bounds and those to show.
  constructor
  · have counted : 249 < pieces step lines := by exact_mod_cast least
    exact counted
  · have counted : pieces step lines < 251 + lines.length := by exact_mod_cast most
    omega

/-! ### The length of dashes -/

theorem dashLength_of_long {settings : Settings Exact} {length : Distance Exact}
    (long : ⟨500⟩ < length) :
    dashLength settings length = .ok ⟨Scalar.trim (length.meters / 250)⟩ := by
  have limit : Scalar.trim (500 : Exact) = 500 := Exact.trim_eq_iff.mpr (Exact.onGrid_ofNat 500)
  have divides : ((250 : Exact) == 0) = false := by simp [Exact.ext_iff]
  simp only [dashLength, greatestLength, Distance.ofMeters_eq_ok, limit, Checked.ok_bind,
    if_pos (show length > ⟨500⟩ from long), Distance.divide, divides, Bool.false_eq_true, if_false]

/-- A 250th of a long line, rounded, goes into the line about 250 times. -/
theorem div_dashLength_bounds {length : Exact} (long : 500 < (Scalar.trim length).value) :
    0 < (Scalar.trim (Scalar.trim length / 250)).value ∧
      249 < length.value / (Scalar.trim (Scalar.trim length / 250)).value ∧
      length.value / (Scalar.trim (Scalar.trim length / 250)).value < 251 := by
  have parts : (250 : Exact).value = 250 := by simp
  have total := abs_le.mp (Exact.abs_trim_sub_le length)
  have step := abs_le.mp (Exact.abs_trim_sub_le (Scalar.trim length / 250))
  rw [Exact.value_div, parts] at step
  generalize (Scalar.trim (Scalar.trim length / 250)).value = dash at step ⊢
  have positive : 0 < dash := by linarith
  refine ⟨positive, ?_, ?_⟩
  -- The two roundings keep 250 dashes within hundredths of a meter of the length.
  · rw [lt_div_iff₀ positive]
    linarith
  · rw [div_lt_iff₀ positive]
    linarith

section
variable {α : Type} [Scalar α]

theorem dashLength_of_short [LawfulOrder α] {settings : Settings α} {length limit : Distance α}
    (limited : Distance.ofMeters greatestLength = .ok limit) (short : length ≤ limit) :
    dashLength settings length = Distance.ofMeters settings.dashes.length := by
  obtain ⟨number, known⟩ := LawfulOrder.isNumber_of_le length.meters limit.meters short
  have within : ¬length > limit := (LawfulOrder.not_lt_iff _ _ known number).mpr short
  rw [dashLength, limited, Checked.ok_bind, if_neg within]

/-- Along a short shape, the two ways of drawing a line choose the same dashes. -/
theorem redraw_eq_ofShape [LawfulOrder α] {settings : Settings α} {shape : Polyline α}
    {close : Bool} {length limit : Distance α}
    (limited : Distance.ofMeters greatestLength = .ok limit)
    (measured : (closeIf close shape).length = .ok length) (short : length ≤ limit) :
    redraw settings shape close = ofShape settings shape close := by
  simp only [redraw, ofShape, measured, Checked.ok_bind, dashLength_of_short limited short]

theorem mem_of_mem_closeIf {close : Bool} {shape : Polyline α} {p : Point α}
    (member : p ∈ (closeIf close shape).points) : p ∈ shape.points := by
  unfold closeIf at member
  split at member
  · exact Polyline.mem_of_mem_closeLoop member
  · exact member

end

/-! ### Main results -/

/-- However a line came about, drawing it again along a shape that is not longer than 500 meters
leaves the line that would be drawn new, and so does following a lane. -/
theorem edit_eq_ofShape (settings : Settings Float) (line : DashedLine Float)
    (shape : Polyline Float) :
    (∀ close length, (closeIf close shape).length = .ok length → length ≤ ⟨500⟩ →
      line.edit settings (.redraw shape close) = ofShape settings shape close) ∧
    ∀ length, shape.length = .ok length → length ≤ ⟨500⟩ →
      line.edit settings (.followLane shape) = ofShape settings shape false := by
  have limited : Distance.ofMeters (greatestLength : Float) = .ok ⟨500⟩ :=
    Distance.ofMeters_eq_ok_iff.mpr ⟨by decide +kernel, congrArg Distance.mk (by decide +kernel)⟩
  constructor
  · intro close length measured short
    exact redraw_eq_ofShape limited measured short
  · -- A lane is never closed.
    intro length measured short
    exact redraw_eq_ofShape limited measured short

/-- A line of a single run that was moved, inverted and widened before. -/
def worn : DashedLine Float := ⟨[⟨⟨[⟨0, 1⟩, ⟨2, 1⟩]⟩, [90], [⟨2⟩], 1⟩], 7⟩

/-- A triangle that is 7 meters long as a path and 12 meters around. -/
def smallTriangle : Polyline Float := ⟨[⟨0, 0⟩, ⟨4, 0⟩, ⟨4, 3⟩]⟩

theorem edit_eq_ofShape_of_triangle :
    (closeIf true smallTriangle).length = .ok ⟨12⟩ ∧ (⟨12⟩ : Distance Float) ≤ ⟨500⟩ ∧
    smallTriangle.length = .ok ⟨7⟩ ∧ (⟨7⟩ : Distance Float) ≤ ⟨500⟩ ∧
    ∃ ring path, ofShape .standard smallTriangle true = .ok ring ∧
      worn.edit .standard (.redraw smallTriangle true) = .ok ring ∧
      ofShape .standard smallTriangle false = .ok path ∧
      worn.edit .standard (.followLane smallTriangle) = .ok path := by
  have around : (closeIf true smallTriangle).length = .ok ⟨12⟩ :=
    Distance.ofMeters_eq_ok_iff.mpr ⟨by decide +kernel, congrArg Distance.mk (by decide +kernel)⟩
  have along : smallTriangle.length = .ok ⟨7⟩ :=
    Distance.ofMeters_eq_ok_iff.mpr ⟨by decide +kernel, congrArg Distance.mk (by decide +kernel)⟩
  have little : (⟨12⟩ : Distance Float) ≤ ⟨500⟩ := by decide +kernel
  have less : (⟨7⟩ : Distance Float) ≤ ⟨500⟩ := by decide +kernel
  have drawn (close : Bool) : ∃ fresh, ofShape .standard smallTriangle close = .ok fresh := by
    apply Checked.exists_of_isOk
    cases close <;> decide +kernel
  obtain ⟨ring, closed⟩ := drawn true
  obtain ⟨path, straight⟩ := drawn false
  obtain ⟨redrawn, followed⟩ := edit_eq_ofShape .standard worn smallTriangle
  exact ⟨around, little, along, less, ring, path, closed,
    (redrawn true _ around little).trans closed, straight, (followed _ along less).trans straight⟩

/-- A line along a shape that is longer than 500 meters has at least 250 dashes, and at most one
more for each segment of the shape. -/
theorem dashes_of_long (settings : Settings Exact) {shape : Polyline Exact}
    (grid : ∀ p ∈ shape.points, p.OnGrid) (close : Bool) {length : Distance Exact}
    (measured : (closeIf close shape).length = .ok length) (long : ⟨500⟩ < length) :
    ∃ line, ofShape settings shape close = .ok line ∧ 250 ≤ line.dashes.length ∧
      line.dashes.length ≤ 250 + (closeIf close shape).segments.length := by
  rw [Polyline.length_eq_ok] at measured
  cases measured
  have far : 500 < (Scalar.trim (closeIf close shape).exactLength).value := by simpa using long
  obtain ⟨forward, above, below⟩ := div_dashLength_bounds far
  rw [Polyline.exactLength_eq] at above below
  have stored : ∀ p ∈ (closeIf close shape).points, p.OnGrid := by
    intro p member
    exact grid p (mem_of_mem_closeIf member)
  obtain ⟨line, made, counted⟩ := exists_ofSegments_counted settings stored forward
  refine ⟨line, ?_, ?_⟩
  · simp only [ofShape, Polyline.length_eq_ok, Checked.ok_bind, dashLength_of_long long, made]
  · rw [counted]
    exact pieces_bounds forward above below

/-- A triangle with a corner that is repeated, 1200 meters around. -/
noncomputable def largeTriangle : Polyline Exact := ⟨[⟨0, 0⟩, ⟨400, 0⟩, ⟨400, 0⟩, ⟨400, 300⟩]⟩

theorem closeIf_largeTriangle : closeIf true largeTriangle =
    ⟨[⟨0, 0⟩, ⟨400, 0⟩, ⟨400, 0⟩, ⟨400, 300⟩, ⟨0, 0⟩]⟩ := by
  have isOpen : largeTriangle.isClosed = false := by
    have apart : (⟨0, 0⟩ : Point Exact) ≠ ⟨400, 300⟩ := Point.ne_of_x (by simp)
    simp [Polyline.isClosed, largeTriangle, apart]
  have several : (true && decide (largeTriangle.points.length > 2)) = true := rfl
  rw [closeIf, if_pos several]
  exact if_neg (by simp [isOpen])

theorem dashes_of_long_of_triangle :
    (∀ p ∈ largeTriangle.points, p.OnGrid) ∧
    (closeIf true largeTriangle).length = .ok ⟨1200⟩ ∧ (⟨500⟩ : Distance Exact) < ⟨1200⟩ ∧
    ∃ line, ofShape .standard largeTriangle true = .ok line ∧ 250 ≤ line.dashes.length ∧
      line.dashes.length ≤ 254 := by
  have grid : ∀ p ∈ largeTriangle.points, p.OnGrid := by
    simp only [largeTriangle, List.forall_mem_cons]
    exact ⟨Point.onGrid_ofNat _ _, Point.onGrid_ofNat _ _, Point.onGrid_ofNat _ _,
      Point.onGrid_ofNat _ _, nofun⟩
  have around : (closeIf true largeTriangle).exactLength = 1200 := by
    ext
    have root : √(400 * 400 + 300 * 300 : ℝ) = 500 :=
      (Real.sqrt_eq_iff_mul_self_eq (by norm_num) (by norm_num)).mpr (by norm_num)
    rw [closeIf_largeTriangle, Polyline.exactLength_eq]
    simp [Polyline.exactTotal, Polyline.segments, Line.exactLength, Point.exactDistanceTo,
      Point.squaredDistanceTo, Scalar.square, root]
    norm_num
  have measured : (closeIf true largeTriangle).length = .ok ⟨1200⟩ := by
    have stored : Scalar.trim (1200 : Exact) = 1200 :=
      Exact.trim_eq_iff.mpr (Exact.onGrid_ofNat 1200)
    rw [Polyline.length_eq_ok, around, stored]
  have long : (⟨500⟩ : Distance Exact) < ⟨1200⟩ := by
    simp
    norm_num
  have counts := dashes_of_long .standard grid true measured long
  rw [closeIf_largeTriangle] at counts
  exact ⟨grid, measured, long, counts⟩

end DashedLine

end RoadSketch
