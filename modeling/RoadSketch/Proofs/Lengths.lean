import RoadSketch.Polyline.Arclength
import RoadSketch.Proofs.DoubleSums
import RoadSketch.Proofs.Plane
import RoadSketch.Proofs.Segments

/-!
# Lengths and repeated points

A point that is repeated adds a segment of no length, so no dashes lie along it and the length of a
polyline is as before. That is so over exact numbers and over doubles, for the sum of lengths is
never a zero with a sign.
-/
namespace RoadSketch

/-- A point with finite coordinates. -/
structure Point.IsFinite {α : Type} [Scalar α] (p : Point α) : Prop where
  x : Scalar.isFinite p.x
  y : Scalar.isFinite p.y

theorem Point.isFinite (p : Point Exact) : p.IsFinite := ⟨rfl, rfl⟩

/-- Numbers with which nothing is the length of what has no length, and adds nothing to others. -/
class LawfulLengths (α : Type) [Scalar α] : Prop where
  distance_self : ∀ p : Point α, p.IsFinite → p.exactDistanceTo p = 0
  length_add_zero : ∀ shape : Polyline α, shape.exactLength + 0 = shape.exactLength
  zero_lt_tolerance : (0 : α) < (Distance.tolerance : Distance α).meters

instance : LawfulLengths Exact where
  distance_self p _ := by
    ext
    simp [Point.value_exactDistanceTo]
  length_add_zero shape := shape.exactLength.add_zero
  zero_lt_tolerance := by simp [Distance.tolerance]

/-! ### Lengths in doubles -/

namespace Double

theorem unsigned_exactLength (line : Line Float) : Unsigned line.exactLength :=
  ((unsigned_mul_self _).add (unsigned_mul_self _)).sqrt

theorem unsigned_total (lines : List (Line Float)) {sum : Float} (unsigned : Unsigned sum) :
    Unsigned (lines.foldl (fun sum line => sum + line.exactLength) sum) := by
  induction lines generalizing sum with
  | nil => exact unsigned
  | cons line rest ih => exact ih (unsigned.add (unsigned_exactLength line))

end Double

instance : LawfulLengths Float where
  distance_self p finite := by
    have first : p.x - p.x = 0 := Double.sub_self finite.x
    have second : p.y - p.y = 0 := Double.sub_self finite.y
    rw [Point.exactDistanceTo, Point.squaredDistanceTo, first, second]
    rfl
  length_add_zero shape := (Double.unsigned_total shape.segments Double.unsigned_zero).add_zero
  zero_lt_tolerance := by decide +kernel

/-! ### Segments of no length -/

section
variable {α : Type} [Scalar α] [LawfulLengths α]

namespace Polyline

theorem exactLength_self {p : Point α} (finite : p.IsFinite) : (Line.mk p p).exactLength = 0 :=
  LawfulLengths.distance_self p finite

/-- A point that is repeated anywhere adds nothing to the length. -/
theorem exactLength_repeat {p : Point α} (finite : p.IsFinite)
    (before after : List (Point α)) :
    exactLength ⟨before ++ p :: p :: after⟩ = exactLength ⟨before ++ p :: after⟩ := by
  have upTo := LawfulLengths.length_add_zero (α := α) ⟨before ++ [p]⟩
  simp only [exactLength] at upTo ⊢
  rw [segments_append before p (p :: after), segments_append before p after,
    segments_cons_cons, List.foldl_append, List.foldl_append, List.foldl_cons,
    exactLength_self finite, upTo]

theorem resample_self {p : Point α} (finite : p.IsFinite) (step : Distance α) (keepEnd : Bool) :
    (Polyline.mk [p, p]).resample step keepEnd = .ok empty := by
  have noLength : (Polyline.mk [p, p]).exactLength = 0 := exactLength_repeat finite [] []
  have short : (Polyline.mk [p, p]).exactLength < (Distance.tolerance : Distance α).meters := by
    rw [noLength]
    exact LawfulLengths.zero_lt_tolerance
  unfold resample
  split
  · rfl
  · exact if_pos short

end Polyline

end

end RoadSketch
