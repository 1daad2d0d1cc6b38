import RoadSketch.Double
import RoadSketch.Proofs.Dash.Measured

/-!
# Dashed lines that can be reached

Dashed lines are drawn along shapes, joined from others, and changed in place. Whatever is done to
them, the bearings and lengths of every run stay those of its own shape, and its offset stays 1
or -1. Only drawing a line anew changes how many runs it has.

The proof is by induction on how a line was reached. All runs come from joining two points, with
one of the two offsets, and from there on they are moved and inverted.

## Main result

`reached_sound`: what holds of every line that can be reached.
-/
namespace RoadSketch

variable {α : Type} [Scalar α]

namespace DashRun

/-- The offset is one of the two that a run may have. -/
def Signed (run : DashRun α) : Prop := run.offset = 1 ∨ run.offset = -1

theorem offset_of_ofShape {shape : Polyline α} {offset : Int} {run : DashRun α}
    (made : ofShape shape offset = .ok run) : run.offset = offset := by
  simp only [ofShape, Checked.bind_eq_ok, Checked.pure_eq_ok] at made
  obtain ⟨lengths, _, rfl⟩ := made
  rfl

theorem Joins.offset {offset : Int} {run : DashRun α} (joins : run.Joins offset) :
    run.offset = offset := by
  obtain ⟨_, _, _, made⟩ := joins
  simp only [between, Checked.bind_eq_ok] at made
  obtain ⟨_, _, made⟩ := made
  exact offset_of_ofShape made

theorem offset_of_shift {run moved : DashRun α} {width : α}
    (shifted : run.shift width = .ok moved) : moved.offset = run.offset := by
  simp only [shift, Checked.bind_eq_ok] at shifted
  obtain ⟨_, _, made⟩ := shifted
  exact offset_of_ofShape made

omit [Scalar α] in
theorem Signed.invert {run : DashRun α} (signed : run.Signed) : run.invert.Signed := by
  rcases signed with right | left
  · exact .inr (congrArg Neg.neg right)
  · exact .inl (congrArg Neg.neg left)

/-- As many bearings and lengths as there are dashes. -/
theorem Measured.counts {run : DashRun α} (measured : run.Measured) :
    run.bearings.length = run.shape.points.length - 1 ∧
      run.lengths.length = run.shape.points.length - 1 := by
  rw [measured.bearings]
  exact ⟨run.shape.length_bearings, Polyline.length_of_lengths measured.lengths⟩

end DashRun

namespace DashedLine

/-- A line that can be reached: the empty one, one that is drawn along a shape, one that joins two
lines that were reached before, and one that was reached and then changed. Lines are values, so
copying one is to go on with it more than once. -/
inductive Reached : DashedLine α → Prop
  | empty : Reached empty
  | drawn {settings shape close line} (made : ofShape settings shape close = .ok line) :
      Reached line
  | joined {settings top joinStarts bottom joinEnds line} (above : Reached top)
      (below : Reached bottom)
      (made : connectors settings top joinStarts bottom joinEnds = .ok line) : Reached line
  | changed {settings line change next} (before : Reached line)
      (made : line.edit settings change = .ok next) : Reached next

/-- Every run keeps the bearings and lengths of its own shape at hand, and one of the two
offsets. -/
structure Sound (line : DashedLine α) : Prop where
  measured : line.Measured
  signed : ∀ run ∈ line.runs, run.Signed

/-! ### New lines -/

theorem sound_empty : Sound (empty : DashedLine α) where
  measured _ member := nomatch member
  signed _ member := nomatch member

theorem sound_ofSegments {settings : Settings α} {shape : Polyline α} {step : Distance α}
    {line : DashedLine α} (made : ofSegments settings shape step = .ok line) : line.Sound := by
  have joins := (joins_of_ofSegments made).2
  exact ⟨(ofSegments_eq_ok made).1, fun run member => .inr (joins run member).offset⟩

theorem sound_ofShape {settings : Settings α} {shape : Polyline α} {close : Bool}
    {line : DashedLine α} (made : ofShape settings shape close = .ok line) : line.Sound := by
  simp only [ofShape, Checked.bind_eq_ok] at made
  obtain ⟨_, _, _, _, made⟩ := made
  exact sound_ofSegments made

theorem sound_redraw {settings : Settings α} {shape : Polyline α} {close : Bool}
    {line : DashedLine α} (made : redraw settings shape close = .ok line) : line.Sound := by
  simp only [redraw, Checked.bind_eq_ok] at made
  obtain ⟨_, _, made⟩ := made
  exact sound_ofSegments made

theorem sound_connectors {settings : Settings α} {top bottom line : DashedLine α}
    {joinStarts joinEnds : Bool}
    (made : connectors settings top joinStarts bottom joinEnds = .ok line) : line.Sound := by
  have joins := (joins_of_connectors made).2
  refine ⟨(connectors_eq_ok made).1, fun run member => ?_⟩
  rcases joins run member with starting | ending
  · exact .inr starting.offset
  · exact .inl ending.offset

/-! ### Changes -/

/-- Moving a line moves its runs one by one and leaves their offsets alone. -/
theorem offsets_of_shift {line moved : DashedLine α} {width : α}
    (shifted : line.shift width = .ok moved) :
    moved.runs.map DashRun.offset = line.runs.map DashRun.offset := by
  simp only [shift, Checked.bind_eq_ok, Checked.pure_eq_ok] at shifted
  obtain ⟨runs, collected, rfl⟩ := shifted
  change runs.map DashRun.offset = _
  -- The runs before and after are related pair by pair: the induction goes through both lists.
  have related := Checked.mapM_eq_ok.mp collected
  clear collected
  generalize line.runs = old at related
  induction related with
  | nil => rfl
  | cons shifted _ ih => rw [List.map_cons, List.map_cons, DashRun.offset_of_shift shifted, ih]

theorem Sound.shift {line moved : DashedLine α} {width : α} (sound : line.Sound)
    (shifted : line.shift width = .ok moved) : moved.Sound := by
  refine ⟨(shift_eq_ok shifted).1, ?_⟩
  intro run member
  have kept := List.mem_map_of_mem (f := DashRun.offset) member
  rw [offsets_of_shift shifted] at kept
  obtain ⟨old, source, same⟩ := List.mem_map.mp kept
  have signed := sound.signed old source
  rwa [DashRun.Signed, same] at signed

theorem Sound.invert {line : DashedLine α} (sound : line.Sound) : line.invert.Sound := by
  refine ⟨sound.measured.invert, ?_⟩
  intro turned member
  obtain ⟨run, source, rfl⟩ := List.mem_map.mp member
  exact (sound.signed run source).invert

theorem Sound.edit {settings : Settings α} {line next : DashedLine α} {change : Edit α}
    (sound : line.Sound) (made : line.edit settings change = .ok next) : next.Sound := by
  cases change with
  | redraw shape close => exact sound_redraw made
  | followLane shape => exact sound_redraw made
  | shift width => exact sound.shift made
  | invert =>
    cases made
    exact sound.invert
  | setWidth width =>
    cases made
    exact ⟨sound.measured, sound.signed⟩

theorem Reached.sound {line : DashedLine α} (reached : line.Reached) : line.Sound := by
  induction reached with
  | empty => exact sound_empty
  | drawn made => exact sound_ofShape made
  | joined _ _ made _ _ => exact sound_connectors made
  | changed _ made before => exact before.edit made

/-! ### Main result -/

/-- In a line that can be reached, every run has the bearings and lengths of its own shape, one for
each of its dashes, and an offset of 1 or -1. Moving, inverting and resizing it keep its runs, and
moving keeps their offsets too. -/
theorem reached_sound {line : DashedLine α} (reached : line.Reached) :
    (∀ run ∈ line.runs,
      run.bearings = run.shape.bearings ∧ run.shape.lengths = .ok run.lengths ∧
      run.bearings.length = run.shape.points.length - 1 ∧
      run.lengths.length = run.shape.points.length - 1 ∧
      (run.offset = 1 ∨ run.offset = -1)) ∧
    (∀ width moved, line.shift width = .ok moved →
      moved.runs.length = line.runs.length ∧
      moved.runs.map DashRun.offset = line.runs.map DashRun.offset) ∧
    line.invert.runs.length = line.runs.length ∧
    ∀ width, (line.withWidth width).runs.length = line.runs.length := by
  have sound := reached.sound
  refine ⟨fun run member => ?_, fun width moved shifted => ?_, by simp [DashedLine.invert], ?_⟩
  · have measured := sound.measured run member
    exact ⟨measured.bearings, measured.lengths, measured.counts.1, measured.counts.2,
      sound.signed run member⟩
  · have offsets := offsets_of_shift shifted
    have counts := congrArg List.length offsets
    rw [List.length_map, List.length_map] at counts
    exact ⟨counts, offsets⟩
  · exact fun width => rfl

/-- Two parallel lines, the first of them inverted, and what joins their ends. -/
def ladder : Checked Float (DashedLine Float) := do
  let top ← ofShape .standard ⟨[⟨0, 0⟩, ⟨3, 4⟩]⟩ false
  let bottom ← ofShape .standard ⟨[⟨0, 5⟩, ⟨3, 9⟩]⟩ false
  let inverted ← top.edit .standard .invert
  connectors .standard inverted true bottom true

theorem reached_sound_of_ladder : ∃ line : DashedLine Float,
    ladder = .ok line ∧ line.Reached ∧
    ∀ run ∈ line.runs,
      run.bearings = run.shape.bearings ∧ run.shape.lengths = .ok run.lengths ∧
      run.bearings.length = run.shape.points.length - 1 ∧
      run.lengths.length = run.shape.points.length - 1 ∧
      (run.offset = 1 ∨ run.offset = -1) := by
  refine (Checked.exists_of_isOk ?_).imp fun line made => ⟨made, ?_⟩
  · decide +kernel
  · simp only [ladder, Checked.bind_eq_ok] at made
    obtain ⟨top, topMade, bottom, bottomMade, inverted, turned, joined⟩ := made
    have reached : line.Reached :=
      .joined (.changed (.drawn topMade) turned) (.drawn bottomMade) joined
    exact ⟨reached, (reached_sound reached).1⟩

end DashedLine

end RoadSketch
