import Mathlib.Data.List.Rotate
import RoadSketch.Polyline.Area
import RoadSketch.Proofs.Segments

/-!
# Rings of points

The ring around a shape joins every point with the next one, and the last point with the first. It
is the list of points beside the same list turned by one place. So moving the points moves the ring,
reversing them reverses it, and every point is the start of as many segments as it is the end of.
-/
namespace RoadSketch.Polyline

section
variable {α : Type}

theorem ringSegments_eq_zipWith (shape : Polyline α) :
    shape.ringSegments = shape.points.zipWith Line.mk (shape.points.rotate 1) := by
  obtain ⟨points⟩ := shape
  cases points with
  | nil => rfl
  | cons first rest => simp [ringSegments]

/-! ### Ends of segments -/

theorem map_start_ringSegments (shape : Polyline α) :
    shape.ringSegments.map Line.start = shape.points := by
  have sameCount : shape.points.length ≤ (shape.points.rotate 1).length := by simp
  rw [ringSegments_eq_zipWith, List.map_zipWith]
  exact List.map_zip_eq_zipWith.symm.trans (List.map_fst_zip sameCount)

theorem map_finish_ringSegments (shape : Polyline α) :
    shape.ringSegments.map Line.finish = shape.points.rotate 1 := by
  have sameCount : (shape.points.rotate 1).length ≤ shape.points.length := by simp
  rw [ringSegments_eq_zipWith, List.map_zipWith]
  exact List.map_zip_eq_zipWith.symm.trans (List.map_snd_zip sameCount)

/-- Every point is the end of as many segments of the ring as it is the start of. -/
theorem ends_perm (shape : Polyline α) :
    (shape.ringSegments.map Line.finish).Perm (shape.ringSegments.map Line.start) := by
  rw [map_start_ringSegments, map_finish_ringSegments]
  exact List.rotate_perm _ _

theorem mem_of_mem_ringSegments {shape : Polyline α} {line : Line α}
    (member : line ∈ shape.ringSegments) :
    line.start ∈ shape.points ∧ line.finish ∈ shape.points := by
  have starts := shape.map_start_ringSegments
  have finishes := shape.ends_perm
  rw [starts] at finishes
  exact ⟨starts ▸ List.mem_map_of_mem member, finishes.subset (List.mem_map_of_mem member)⟩

/-- A ring of segments that go nowhere has only one place. -/
theorem eq_of_ringSegments {first : Point α} {rest : List (Point α)}
    (nowhere : ∀ line ∈ ringSegments ⟨first :: rest⟩, line.start = line.finish) :
    ∀ p ∈ first :: rest, p = first := by
  -- Every point is the next one, and a list that one turn does not change has only one element.
  have turned : (first :: rest).rotate 1 = first :: rest := by
    have ends := List.map_congr_left nowhere
    rwa [map_start_ringSegments, map_finish_ringSegments, eq_comm] at ends
  have : Nonempty (Point α) := ⟨first⟩
  obtain ⟨p, same⟩ := List.rotate_one_eq_self_iff_eq_replicate.mp turned
  have each : ∀ q ∈ first :: rest, q = p := fun q member =>
    List.eq_of_mem_replicate (same ▸ member)
  intro q member
  exact (each q member).trans (each first List.mem_cons_self).symm

/-! ### Other shapes -/

theorem ringSegments_map (f : Point α → Point α) (points : List (Point α)) :
    ringSegments ⟨points.map f⟩ =
      (ringSegments ⟨points⟩).map fun line => ⟨f line.start, f line.finish⟩ := by
  simp only [ringSegments_eq_zipWith, ← List.map_rotate, List.zipWith_map, List.map_zipWith]

theorem rotate_reverse_rotate (points : List (Point α)) :
    (points.rotate 1).reverse.rotate 1 = points.reverse := by
  cases points with
  | nil => rfl
  | cons first rest => simp

/-- The ring of the reversed points is the ring run through backwards, from another segment on. -/
theorem ringSegments_reversed (shape : Polyline α) :
    shape.reversed.ringSegments =
      (shape.ringSegments.map fun line => Line.mk line.finish line.start).reverse.rotate 1 := by
  have sameCount : (shape.points.rotate 1).length = shape.points.length := List.length_rotate _ _
  have backwards : (shape.ringSegments.map fun line => Line.mk line.finish line.start) =
      (shape.points.rotate 1).zipWith Line.mk shape.points := by
    rw [ringSegments_eq_zipWith, List.map_zipWith, List.zipWith_comm]
  rw [backwards, List.reverse_zipWith sameCount, List.zipWith_rotate_distrib _ _ _ _ (by simp),
    rotate_reverse_rotate]
  exact ringSegments_eq_zipWith shape.reversed

/-- The ring through all points is the path that returns to the first. -/
theorem ringSegments_cons (first : Point α) (rest : List (Point α)) :
    ringSegments ⟨first :: rest⟩ = (push ⟨first :: rest⟩ first).segments := by
  have sameCount : (first :: rest).length = (rest ++ [first]).length := by simp
  have pairs : List.zipWith Line.mk (first :: rest ++ [first]) (rest ++ [first] ++ []) = _ :=
    List.zipWith_append sameCount
  rw [List.append_nil, List.zipWith_nil_right, List.append_nil] at pairs
  exact pairs.symm

theorem ringSegments_push_first (first : Point α) (rest : List (Point α)) :
    (push ⟨first :: rest⟩ first).ringSegments =
      ringSegments ⟨first :: rest⟩ ++ [⟨first, first⟩] := by
  have twice : (push ⟨first :: rest⟩ first).ringSegments =
      ((push ⟨first :: rest⟩ first).push first).segments :=
    ringSegments_cons first (rest ++ [first])
  rw [twice, segments_push (last?_push _ _), ringSegments_cons]

end

section
variable {α : Type} [Scalar α] [LawfulBEq (Point α)]

theorem isClosed_iff {first second : Point α} {rest : List (Point α)} :
    isClosed ⟨first :: second :: rest⟩ = true ↔ last? ⟨first :: second :: rest⟩ = some first := by
  rw [isClosed, beq_iff_eq, last?, List.getLast?_cons_cons, eq_comm]

theorem isClosed_push_first (first : Point α) (rest : List (Point α)) :
    (push ⟨first :: rest⟩ first).isClosed = true := by
  cases rest with
  | nil => exact isClosed_iff.mpr rfl
  | cons second rest => exact isClosed_iff.mpr (last?_push ⟨first :: second :: rest⟩ first)

/-- The ring through the points of a closed shape has one segment more, that goes nowhere. -/
theorem ringSegments_of_isClosed {first : Point α} {rest : List (Point α)}
    (closed : isClosed ⟨first :: rest⟩ = true) :
    ringSegments ⟨first :: rest⟩ = segments ⟨first :: rest⟩ ++ [⟨first, first⟩] := by
  cases rest with
  | nil => cases closed
  | cons second rest => rw [ringSegments_cons, segments_push (isClosed_iff.mp closed)]

end

end RoadSketch.Polyline
