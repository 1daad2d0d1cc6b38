import Mathlib.Data.List.Destutter
import RoadSketch.Double
import RoadSketch.Proofs.Polyline.Thinning

/-!
# Gluing polylines

Where two polylines meet, a point in common is not to be repeated. Gluing compares every point with
the latest one in place, and not only the first: it destutters. So points that are repeated further
on are left out as well, and nothing else is lost exactly if there are none.

## Main result

`extend_eq_glued_iff`: what gluing leaves, and when that is all but the point in common.
-/
namespace RoadSketch

variable {α : Type} [Scalar α]

/-- Points that do not coincide. -/
abbrev Point.IsApart (p q : Point α) : Prop := ¬p.coincides q

namespace Polyline

/-- Does a polyline end where another one starts? -/
def meets (shape other : Polyline α) : Bool :=
  match shape.last?, other.first? with
  | some last, some first => last.coincides first
  | _, _ => false

/-- All points of another polyline that are to follow, which are all but a point in common. -/
def continuation (shape other : Polyline α) : List (Point α) :=
  if shape.meets other then other.points.tail else other.points

/-- Two polylines, with a point in common where they meet and everything else kept. -/
def glued (shape other : Polyline α) : Polyline α := ⟨shape.points ++ shape.continuation other⟩

/-! ### Gluing destutters -/

/-- Behind some point, what is kept of further points is what destuttering leaves of them. -/
theorem exists_kept_behind (before others : List (Point α)) (last : Point α) :
    ∃ kept, others.destutter' Point.IsApart last = last :: kept ∧
      (extend ⟨before ++ [last]⟩ ⟨others⟩).points = before ++ last :: kept := by
  induction others generalizing before last with
  | nil => exact ⟨[], rfl, rfl⟩
  | cons p rest ih =>
    have ends : (Polyline.mk (before ++ [last])).last? = some last := List.getLast?_concat
    have step : extend ⟨before ++ [last]⟩ ⟨p :: rest⟩ =
        ((Polyline.mk (before ++ [last])).append p).extend ⟨rest⟩ := rfl
    rw [step]
    rcases append_cases ⟨before ++ [last]⟩ p with ⟨_, found, same, stays⟩ | ⟨apart, grown⟩
    · cases ends.symm.trans found
      rw [stays, List.destutter'_cons_neg _ (not_not_intro same)]
      exact ih before last
    · rw [grown, List.destutter'_cons_pos _ (apart last ends)]
      obtain ⟨kept, left, extended⟩ := ih (before ++ [last]) p
      exact ⟨p :: kept, congrArg (last :: ·) left, extended.trans (List.append_assoc ..)⟩

/-- What is kept of another polyline is what destuttering leaves of it, from the last point on. -/
theorem exists_kept (shape other : Polyline α) :
    ∃ kept, (shape.extend other).points = shape.points ++ kept ∧
      shape.last?.toList ++ kept =
        (shape.last?.toList ++ other.points).destutter Point.IsApart := by
  obtain ⟨points⟩ := shape
  obtain ⟨others⟩ := other
  rcases List.eq_nil_or_concat' points with rfl | ⟨before, last, rfl⟩
  · cases others with
    | nil => exact ⟨[], rfl, rfl⟩
    | cons first rest =>
      obtain ⟨kept, left, extended⟩ := exists_kept_behind [] rest first
      exact ⟨first :: kept, extended, left.symm⟩
  · obtain ⟨kept, left, extended⟩ := exists_kept_behind before others last
    have ends : (Polyline.mk (before ++ [last])).last? = some last := List.getLast?_concat
    rw [ends]
    exact ⟨kept, extended.trans (List.append_cons ..), left.symm⟩

/-- A point in common is left out in any case. -/
theorem destutter_continuation (shape other : Polyline α) :
    (shape.last?.toList ++ shape.continuation other).destutter Point.IsApart =
      (shape.last?.toList ++ other.points).destutter Point.IsApart := by
  unfold continuation meets
  split
  next last first ends starts =>
    split
    next met =>
      obtain ⟨rest, whole⟩ := List.head?_eq_some_iff.mp starts
      rw [whole, ends]
      exact (List.destutter'_cons_neg rest (not_not_intro met)).symm
    next => rfl
  next => rfl

/-! ### Main result -/

/-- What gluing leaves of another polyline, and exactly when that is all but a point in common: if
from the last point on no point coincides with the one before it. -/
theorem extend_eq_glued_iff (shape other : Polyline α) :
    (∃ kept, (shape.extend other).points = shape.points ++ kept ∧
      shape.last?.toList ++ kept =
        (shape.last?.toList ++ other.points).destutter Point.IsApart) ∧
    (shape.extend other = shape.glued other ↔
      (shape.last?.toList ++ shape.continuation other).IsChain Point.IsApart) := by
  obtain ⟨kept, extended, left⟩ := exists_kept shape other
  refine ⟨⟨kept, extended, left⟩, ?_⟩
  have all : shape.extend other = shape.glued other ↔ kept = shape.continuation other := by
    rw [← List.append_cancel_left_eq shape.points, ← extended]
    exact ⟨congrArg Polyline.points, congrArg Polyline.mk⟩
  rw [all, ← List.destutter_eq_self_iff, destutter_continuation, ← left,
    List.append_cancel_left_eq]

/-- A road of two stretches, the second of which ends with a repeated point. -/
def firstStretch : Polyline Float := ⟨[⟨0, 0⟩, ⟨1, 0⟩]⟩

def secondStretch : Polyline Float := ⟨[⟨1, 0⟩, ⟨2, 0⟩, ⟨2, 0⟩]⟩

/-- Not only the point where the two stretches meet is lost, but also the one that is repeated. -/
theorem extend_loses_repeat :
    firstStretch.extend secondStretch ≠ firstStretch.glued secondStretch ∧
    (firstStretch.glued secondStretch).points.length = 4 ∧
    (firstStretch.extend secondStretch).points.length = 3 := by
  have whole : (firstStretch.glued secondStretch).points.length = 4 := by decide +kernel
  have lost : (firstStretch.extend secondStretch).points.length = 3 := by decide +kernel
  refine ⟨fun same => ?_, whole, lost⟩
  rw [same, whole] at lost
  cases lost

end Polyline

end RoadSketch
