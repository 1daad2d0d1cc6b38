import RoadSketch.Canvas.Command
import RoadSketch.Proofs.Checked

/-!
# Segments of a polyline

How many segments there are, which points each of them joins, and what bearings, lengths and boxes
say about them one by one.
-/
namespace RoadSketch

variable {α : Type} [Scalar α]

namespace Polyline

omit [Scalar α] in
@[simp] theorem length_segments (shape : Polyline α) :
    shape.segments.length = shape.points.length - 1 := by
  simp [segments]

@[simp] theorem length_bearings (shape : Polyline α) :
    shape.bearings.length = shape.points.length - 1 := by
  simp [bearings]

omit [Scalar α] in
theorem segments_cons_cons (p q : Point α) (rest : List (Point α)) :
    segments ⟨p :: q :: rest⟩ = ⟨p, q⟩ :: segments ⟨q :: rest⟩ := rfl

omit [Scalar α] in
theorem segments_pair (p q : Point α) : segments ⟨[p, q]⟩ = [⟨p, q⟩] := rfl

omit [Scalar α] in
theorem segments_getElem? (shape : Polyline α) (i : Nat) (p q : Point α)
    (here : shape.points[i]? = some p) (next : shape.points[i + 1]? = some q) :
    shape.segments[i]? = some ⟨p, q⟩ := by
  simp [segments, List.getElem?_zipWith, here, next]

omit [Scalar α] in
/-- Every segment joins two neighbouring points. -/
theorem getElem?_of_mem_segments {shape : Polyline α} {line : Line α}
    (member : line ∈ shape.segments) :
    ∃ i, shape.points[i]? = some line.start ∧ shape.points[i + 1]? = some line.finish := by
  obtain ⟨i, here⟩ := List.getElem?_of_mem member
  rw [segments, List.getElem?_zipWith, List.getElem?_tail] at here
  refine ⟨i, ?_⟩
  split at here
  next start finish starts finishes =>
    cases here
    exact ⟨starts, finishes⟩
  next => cases here

omit [Scalar α] in
/-- A vertex is an end of some segment of some length, unless all points are the same. -/
theorem exists_segment_at {v first : Point α} {rest : List (Point α)}
    (member : v ∈ first :: rest) :
    (v = first ∧ ∀ line ∈ segments ⟨first :: rest⟩, line.start = line.finish) ∨
      ∃ line ∈ segments ⟨first :: rest⟩,
        line.start ≠ line.finish ∧ (v = line.start ∨ v = line.finish) := by
  induction rest generalizing first with
  | nil => exact .inl ⟨List.mem_singleton.mp member, by simp [segments]⟩
  | cons next rest ih =>
    rw [segments_cons_cons]
    by_cases same : first = next
    · subst same
      have later : v ∈ first :: rest := by simpa using member
      rcases ih later with ⟨here, empty⟩ | ⟨line, further, long, ends⟩
      · exact .inl ⟨here, List.forall_mem_cons.mpr ⟨rfl, empty⟩⟩
      · exact .inr ⟨line, List.mem_cons_of_mem _ further, long, ends⟩
    · right
      rcases List.mem_cons.mp member with here | later
      · exact ⟨_, List.mem_cons_self, same, .inl here⟩
      · rcases ih later with ⟨there, _⟩ | ⟨line, further, long, ends⟩
        · exact ⟨_, List.mem_cons_self, same, .inr there⟩
        · exact ⟨line, List.mem_cons_of_mem _ further, long, ends⟩

omit [Scalar α] in
theorem segments_push {shape : Polyline α} {last : Point α} (ends : shape.last? = some last)
    (p : Point α) : (shape.push p).segments = shape.segments ++ [⟨last, p⟩] := by
  obtain ⟨points⟩ := shape
  change points.getLast? = some last at ends
  induction points with
  | nil => cases ends
  | cons first rest ih =>
    cases rest with
    | nil =>
      cases ends
      rfl
    | cons second rest =>
      rw [List.getLast?_cons_cons] at ends
      exact congrArg (List.cons ⟨first, second⟩) (ih ends)

omit [Scalar α] in
/-- The segments up to a point, and those from it on. -/
theorem segments_append (before : List (Point α)) (p : Point α) (after : List (Point α)) :
    segments ⟨before ++ p :: after⟩ = segments ⟨before ++ [p]⟩ ++ segments ⟨p :: after⟩ := by
  induction before with
  | nil => rfl
  | cons first rest ih =>
    cases rest with
    | nil => rfl
    | cons second rest => exact congrArg (List.cons ⟨first, second⟩) ih

omit [Scalar α] in
theorem last?_push (shape : Polyline α) (p : Point α) : (shape.push p).last? = some p :=
  List.getLast?_concat

/-- Closing a shape adds no point that was not there. -/
theorem mem_of_mem_closeLoop {shape : Polyline α} {p : Point α}
    (member : p ∈ shape.closeLoop.points) : p ∈ shape.points := by
  unfold closeLoop at member
  split at member
  next => exact member
  next => exact member
  next first rest _ points =>
    split at member
    · exact member
    · rcases List.mem_append.mp member with here | again
      · exact here
      · rw [List.mem_singleton.mp again, points]
        exact List.mem_cons_self

theorem closeLoop_ne_nil {shape : Polyline α} (present : shape.points ≠ []) :
    shape.closeLoop.points ≠ [] := by
  unfold closeLoop
  split
  next => exact present
  next => exact present
  next =>
    split
    · exact present
    · exact List.append_ne_nil_of_right_ne_nil _ (List.cons_ne_nil _ _)

theorem lengths_eq_ok {shape : Polyline α} {lengths : List (Distance α)} :
    shape.lengths = .ok lengths ↔
      List.Forall₂ (fun segment length => segment.length = .ok length) shape.segments lengths :=
  Checked.mapM_eq_ok

theorem lengths_getElem? {shape : Polyline α} {lengths : List (Distance α)}
    (measured : shape.lengths = .ok lengths) {i : Nat} {segment : Line α}
    (here : shape.segments[i]? = some segment) :
    ∃ length, segment.length = .ok length ∧ lengths[i]? = some length :=
  Checked.getElem?_of_mapM measured here

theorem length_of_lengths {shape : Polyline α} {lengths : List (Distance α)}
    (measured : shape.lengths = .ok lengths) : lengths.length = shape.points.length - 1 := by
  rw [Checked.length_of_mapM measured, length_segments]

omit [Scalar α] in
theorem length_of_mapPoints {shape moved : Polyline α} {f : Point α → Checked α (Point α)}
    (mapped : shape.mapPoints f = .ok moved) : moved.points.length = shape.points.length := by
  simp only [mapPoints, Checked.bind_eq_ok, Checked.pure_eq_ok] at mapped
  obtain ⟨points, collected, rfl⟩ := mapped
  exact Checked.length_of_mapM collected

theorem length_of_scale {shape scaled : Polyline α} {factor : α}
    (grown : shape.scale factor = .ok scaled) : scaled.points.length = shape.points.length := by
  simp only [scale, Checked.bind_eq_ok] at grown
  obtain ⟨center?, _, grown⟩ := grown
  cases center? with
  | none =>
    cases grown
    rfl
  | some center => exact length_of_mapPoints grown

end Polyline

/-- A box that draws a segment: from its start, along its bearing, over its whole length. -/
def Command.IsBoxOf (segment : Line α) (width : α) (box : Command α) : Prop :=
  ∃ length, segment.length = .ok length ∧
    box = .box segment.start segment.bearing length width 0

/-- With the bearings and lengths of its own segments, a shape gets one box for every segment. -/
theorem Drawing.boxes_isBoxOf {shape : Polyline α} {lengths : List (Distance α)}
    (measured : shape.lengths = .ok lengths) (width : α) :
    List.Forall₂ (fun segment box => Command.IsBoxOf segment width box) shape.segments
      (Drawing.boxes shape shape.bearings lengths width) := by
  have related := Polyline.lengths_eq_ok.mp measured
  obtain ⟨points⟩ := shape
  simp only [Polyline.segments, Polyline.bearings, Drawing.boxes] at related ⊢
  clear measured
  induction points generalizing lengths with
  | nil =>
    cases related
    exact .nil
  | cons p rest ih =>
    cases rest with
    | nil =>
      cases related
      exact .nil
    | cons q rest =>
      obtain ⟨length, others, first, later, rfl⟩ := List.forall₂_cons_left_iff.mp related
      exact .cons ⟨length, first, rfl⟩ (ih later)

end RoadSketch
