import RoadSketch.Proofs.Polyline.Rings
import RoadSketch.Proofs.Unrounded

/-!
# Where rings balance

The center of a shape is the point about which the ring around it balances: the segments, each with
its weight and as seen from that point, add up to nothing. The weight of a segment is the signed
area between it and the point, or its length if the ring encloses no area. If it has no length
either then all points of the shape are the center.

What balances about a point still does so after the shape is moved, scaled, reversed or closed, and
neither of the weights is lost by that. So the center goes where the shape goes.
-/
namespace RoadSketch.Polyline

/-! ### Sums over segments -/

/-- What segments add up to, each of which counts for something by where it starts and ends. -/
noncomputable def segmentSum {M : Type} [AddCommGroup M] (lines : List (Line Unrounded))
    (term : ℂ → ℂ → M) : M :=
  (lines.map fun line => term line.start.position line.finish.position).sum

section
variable {M : Type} [AddCommGroup M] {term other : ℂ → ℂ → M} {lines : List (Line Unrounded)}

theorem segmentSum_congr (same : ∀ a b, term a b = other a b) :
    segmentSum lines term = segmentSum lines other :=
  congrArg List.sum (List.map_congr_left fun _ _ => same _ _)

theorem segmentSum_add (first second : ℂ → ℂ → M) :
    (segmentSum lines fun a b => first a b + second a b) =
      segmentSum lines first + segmentSum lines second := List.sum_map_add

theorem segmentSum_mul_left {R : Type} [Ring R] (factor : R) (term : ℂ → ℂ → R) :
    (segmentSum lines fun a b => factor * term a b) = factor * segmentSum lines term :=
  List.sum_map_mul_left _ _ _

theorem segmentSum_ofReal (weight : ℂ → ℂ → ℝ) :
    (segmentSum lines fun a b => (weight a b : ℂ)) = (segmentSum lines weight : ℝ) := by
  rw [segmentSum, segmentSum, ← Complex.ofRealHom_eq_coe, map_list_sum, List.map_map]
  rfl

/-- Segments that go nowhere do not count. -/
theorem segmentSum_append_self (zero : ∀ a, term a a = 0) (p : Point Unrounded) :
    segmentSum (lines ++ [⟨p, p⟩]) term = segmentSum lines term := by
  simp [segmentSum, zero]

/-! ### Sums around rings -/

variable {shape : Polyline Unrounded}

/-- Around a ring, what is gained from point to point is lost again. -/
theorem segmentSum_eq_of_gain (g : ℂ → M) (gain : ∀ a b, term a b = other a b + (g b - g a)) :
    segmentSum shape.ringSegments term = segmentSum shape.ringSegments other := by
  have ends : (segmentSum shape.ringSegments fun _ b => g b) =
      segmentSum shape.ringSegments fun a _ => g a := by
    have perm := (shape.ends_perm.map fun p => g p.position).sum_eq
    rwa [List.map_map, List.map_map] at perm
  have gains : (segmentSum shape.ringSegments fun a b => g b - g a) = 0 := by
    rw [← add_eq_right, ← segmentSum_add, ← ends]
    exact segmentSum_congr fun a b => sub_add_cancel _ _
  rw [segmentSum_congr gain, segmentSum_add, gains, add_zero]

theorem segmentSum_map {f : Point Unrounded → Point Unrounded} {T : ℂ → ℂ}
    (moves : ∀ p, (f p).position = T p.position) (points : List (Point Unrounded)) :
    segmentSum (ringSegments ⟨points.map f⟩) term =
      segmentSum (ringSegments ⟨points⟩) fun a b => term (T a) (T b) := by
  rw [segmentSum, ringSegments_map, List.map_map]
  simp only [segmentSum, Function.comp_def, moves]

theorem segmentSum_reversed (shape : Polyline Unrounded) (term : ℂ → ℂ → M) :
    segmentSum shape.reversed.ringSegments term =
      segmentSum shape.ringSegments fun a b => term b a := by
  have perm := (List.rotate_perm (shape.ringSegments.map fun line =>
    Line.mk line.finish line.start).reverse 1).trans (List.reverse_perm _)
  rw [ringSegments_reversed, segmentSum, (perm.map _).sum_eq, List.map_map]
  rfl

theorem segmentSum_closeLoop (zero : ∀ a, term a a = 0) (shape : Polyline Unrounded) :
    segmentSum shape.closeLoop.ringSegments term = segmentSum shape.ringSegments term := by
  obtain ⟨points⟩ := shape
  unfold closeLoop
  split
  · rfl
  · rfl
  next first rest _ points =>
    split
    · rfl
    · cases points
      rw [ringSegments_push_first, segmentSum_append_self zero]

/-- A shape that stays in one place has no sums. -/
theorem segmentSum_of_point (zero : ∀ a, term a a = 0) {c : ℂ}
    (each : ∀ p ∈ shape.points, p.position = c) : segmentSum shape.ringSegments term = 0 := by
  apply List.sum_eq_zero
  intro value member
  obtain ⟨line, onRing, rfl⟩ := List.mem_map.mp member
  obtain ⟨starts, finishes⟩ := mem_of_mem_ringSegments onRing
  rw [each _ starts, each _ finishes, zero]

end

/-! ### Weights -/

/-- Twice the signed area between two places and the origin. -/
def cross (a b : ℂ) : ℝ := a.re * b.im - b.re * a.im

@[simp] theorem cross_self (a : ℂ) : cross a a = 0 := sub_self _

theorem cross_swap (a b : ℂ) : cross b a = -1 * cross a b := by
  rw [cross, cross]
  ring

theorem cross_mul (factor : ℝ) (a b : ℂ) :
    cross (factor * a) (factor * b) = factor ^ 2 * cross a b := by
  simp only [cross, Complex.re_ofReal_mul, Complex.im_ofReal_mul]
  ring

theorem dist_mul (factor : ℝ) (a b : ℂ) :
    dist (factor * a : ℂ) (factor * b) = |factor| * dist a b := by
  rw [dist_eq_norm, dist_eq_norm, ← mul_sub, norm_mul, Complex.norm_real, Real.norm_eq_abs]

/-- Twice the signed area that the ring around a shape encloses. -/
noncomputable def doubleArea (shape : Polyline Unrounded) : ℝ := segmentSum shape.ringSegments cross

/-- The length of the ring around a shape. -/
noncomputable def perimeter (shape : Polyline Unrounded) : ℝ := segmentSum shape.ringSegments dist

/-- What the segments of the ring around a shape, weighed as they are seen from a place, add up to
about that place. -/
noncomputable def moment (shape : Polyline Unrounded) (weight : ℂ → ℂ → ℝ) (c : ℂ) : ℂ :=
  segmentSum shape.ringSegments fun a b => (a - c + (b - c)) * weight (a - c) (b - c)

/-- The signed area of a ring is the same from wherever it is seen. -/
theorem doubleArea_eq (shape : Polyline Unrounded) (c : ℂ) :
    shape.doubleArea = segmentSum shape.ringSegments fun a b => cross (a - c) (b - c) := by
  apply segmentSum_eq_of_gain (cross c)
  intro a b
  simp only [cross, Complex.sub_re, Complex.sub_im]
  ring

theorem moment_cross (shape : Polyline Unrounded) (c : ℂ) :
    shape.moment cross c =
      (segmentSum shape.ringSegments fun a b => (a + b) * cross a b) -
        c * (shape.doubleArea * 3) := by
  have weighed : shape.moment cross c =
      segmentSum shape.ringSegments fun a b => (a + b) * cross a b + -(3 * c) * cross a b := by
    -- Of three places, each times the signed area between the other two adds up to nothing. That
    -- leaves one area of three, and what is gained along the segment.
    apply segmentSum_eq_of_gain fun p => (2 * c - p) * cross c p
    intro a b
    apply Complex.ext <;> simp [cross] <;> ring
  rw [weighed, segmentSum_add, segmentSum_mul_left, segmentSum_ofReal, doubleArea]
  ring

theorem moment_dist (shape : Polyline Unrounded) (c : ℂ) :
    shape.moment dist c =
      (segmentSum shape.ringSegments fun a b => (a + b) * (dist a b : ℂ)) -
        c * (2 * shape.perimeter) := by
  have weighed : shape.moment dist c = segmentSum shape.ringSegments fun a b =>
      (a + b) * (dist a b : ℂ) + -(2 * c) * (dist a b : ℂ) := by
    apply segmentSum_congr
    intro a b
    rw [dist_sub_right]
    ring
  rw [weighed, segmentSum_add, segmentSum_mul_left, segmentSum_ofReal, perimeter]
  ring

theorem moment_cross_eq_zero {shape : Polyline Unrounded} (encloses : shape.doubleArea ≠ 0)
    {c : ℂ} : shape.moment cross c = 0 ↔
      (segmentSum shape.ringSegments fun a b => (a + b) * cross a b) / (shape.doubleArea * 3) =
        c := by
  have nonzero : (shape.doubleArea * 3 : ℂ) ≠ 0 := by simpa using encloses
  rw [moment_cross, sub_eq_zero, div_eq_iff nonzero]

theorem moment_dist_eq_zero {shape : Polyline Unrounded} (long : shape.perimeter ≠ 0) {c : ℂ} :
    shape.moment dist c = 0 ↔
      (segmentSum shape.ringSegments fun a b => (a + b) * (dist a b : ℂ)) / 2 / shape.perimeter =
        c := by
  have nonzero : (2 * shape.perimeter : ℂ) ≠ 0 := by simpa using long
  rw [moment_dist, sub_eq_zero, div_div, div_eq_iff nonzero]

/-! ### Centers -/

/-- Where the center of a shape is: amid the enclosed area, or amid the length if there is no area,
or where all points are. -/
inductive IsCenter (shape : Polyline Unrounded) (c : ℂ) : Prop
  | area (encloses : shape.doubleArea ≠ 0) (balanced : shape.moment cross c = 0)
  | length (flat : shape.doubleArea = 0) (long : shape.perimeter ≠ 0)
      (balanced : shape.moment dist c = 0)
  | point (each : ∀ p ∈ shape.points, p.position = c)

/-- What has no length stays in one place. -/
theorem eq_of_perimeter {first : Point Unrounded} {rest : List (Point Unrounded)}
    (short : perimeter ⟨first :: rest⟩ = 0) : ∀ p ∈ first :: rest, p = first := by
  apply eq_of_ringSegments
  intro line member
  have nowhere := List.all_zero_of_le_zero_le_of_sum_eq_zero
    (List.forall_mem_map.mpr fun _ _ => dist_nonneg) short (List.mem_map_of_mem member)
  exact Point.position_injective (dist_eq_zero.mp nowhere)

/-- Every shape with points has a center. -/
theorem exists_isCenter {shape : Polyline Unrounded} (present : shape.points ≠ []) :
    ∃ center : Point Unrounded, shape.IsCenter center.position := by
  have placed {c : ℂ} (balanced : shape.IsCenter c) :
      ∃ center : Point Unrounded, shape.IsCenter center.position := ⟨⟨.ofReal c.re, .ofReal c.im⟩, balanced⟩
  by_cases encloses : shape.doubleArea = 0
  · by_cases long : shape.perimeter = 0
    · obtain ⟨points⟩ := shape
      cases points with
      | nil => exact absurd rfl present
      | cons first rest =>
        exact ⟨first, .point fun p member =>
          congrArg Point.position (eq_of_perimeter long p member)⟩
    · exact placed (.length encloses long ((moment_dist_eq_zero long).mpr rfl))
  · exact placed (.area encloses ((moment_cross_eq_zero encloses).mpr rfl))

/-! ### Moved, reversed and closed shapes -/

section
variable {shape other : Polyline Unrounded} {c d : ℂ}

/-- One shape has its center where another one has it if neither weight is lost on the way, and
whatever balanced still does. -/
theorem IsCenter.transfer (center : shape.IsCenter c)
    (area : other.doubleArea = 0 ↔ shape.doubleArea = 0)
    (length : other.perimeter = 0 ↔ shape.perimeter = 0)
    (areaBalance : shape.moment cross c = 0 → other.moment cross d = 0)
    (lengthBalance : shape.moment dist c = 0 → other.moment dist d = 0)
    (place : (∀ p ∈ shape.points, p.position = c) → ∀ p ∈ other.points, p.position = d) :
    other.IsCenter d := by
  cases center with
  | area encloses balanced => exact .area (mt area.mp encloses) (areaBalance balanced)
  | length flat long balanced =>
    exact .length (area.mpr flat) (mt length.mp long) (lengthBalance balanced)
  | point each => exact .point (place each)

section
variable {f : Point Unrounded → Point Unrounded} {T : ℂ → ℂ} {factor : ℝ}
  (moves : ∀ p, (f p).position = T p.position) (affine : ∀ a b, T a - T b = factor * (a - b))
include moves affine

theorem doubleArea_map (shape : Polyline Unrounded) :
    doubleArea ⟨shape.points.map f⟩ = factor ^ 2 * shape.doubleArea := by
  -- Single segments only grow by the factor as seen from a place that is moved along with them.
  rw [doubleArea_eq _ (T 0), segmentSum_map moves, doubleArea_eq shape 0, ← segmentSum_mul_left]
  apply segmentSum_congr
  intro a b
  rw [affine, affine, cross_mul]

theorem perimeter_map (shape : Polyline Unrounded) :
    perimeter ⟨shape.points.map f⟩ = |factor| * shape.perimeter := by
  rw [perimeter, segmentSum_map moves, perimeter, ← segmentSum_mul_left]
  apply segmentSum_congr
  intro a b
  rw [← dist_mul, dist_eq_norm, dist_eq_norm, affine, mul_sub]

theorem moment_map {weight : ℂ → ℂ → ℝ} {gain : ℝ}
    (weighs : ∀ a b : ℂ, weight (factor * a) (factor * b) = gain * weight a b) :
    moment ⟨shape.points.map f⟩ weight (T c) = factor * gain * shape.moment weight c := by
  rw [moment, segmentSum_map moves, moment, ← segmentSum_mul_left]
  apply segmentSum_congr
  intro a b
  rw [affine, affine, weighs]
  push_cast
  ring

/-- The center goes where a shape is moved and scaled to. -/
theorem IsCenter.map (center : shape.IsCenter c) (nonzero : factor ≠ 0) :
    IsCenter ⟨shape.points.map f⟩ (T c) := by
  apply center.transfer
  · simp [doubleArea_map moves affine, nonzero]
  · simp [perimeter_map moves affine, nonzero]
  · intro balanced
    rw [moment_map moves affine (cross_mul factor), balanced, mul_zero]
  · intro balanced
    rw [moment_map moves affine (dist_mul factor), balanced, mul_zero]
  · intro each p member
    obtain ⟨q, there, rfl⟩ := List.mem_map.mp member
    rw [moves, each q there]

end

theorem doubleArea_reversed (shape : Polyline Unrounded) :
    shape.reversed.doubleArea = -1 * shape.doubleArea := by
  rw [doubleArea, segmentSum_reversed, doubleArea, ← segmentSum_mul_left]
  exact segmentSum_congr cross_swap

theorem perimeter_reversed (shape : Polyline Unrounded) :
    shape.reversed.perimeter = shape.perimeter := by
  rw [perimeter, segmentSum_reversed]
  exact segmentSum_congr fun a b => dist_comm b a

theorem moment_reversed {weight : ℂ → ℂ → ℝ} {sign : ℝ}
    (swapped : ∀ a b, weight b a = sign * weight a b) :
    shape.reversed.moment weight c = sign * shape.moment weight c := by
  rw [moment, segmentSum_reversed, moment, ← segmentSum_mul_left]
  apply segmentSum_congr
  intro a b
  rw [swapped]
  push_cast
  ring

theorem IsCenter.reversed (center : shape.IsCenter c) : shape.reversed.IsCenter c := by
  apply center.transfer
  · simp [doubleArea_reversed]
  · rw [perimeter_reversed]
  · intro balanced
    rw [moment_reversed cross_swap, balanced, mul_zero]
  · intro balanced
    rw [moment_reversed fun a b => (dist_comm b a).trans (one_mul _).symm, balanced, mul_zero]
  · exact fun each p member => each p (List.mem_reverse.mp member)

theorem doubleArea_closeLoop (shape : Polyline Unrounded) :
    shape.closeLoop.doubleArea = shape.doubleArea := segmentSum_closeLoop cross_self _

theorem perimeter_closeLoop (shape : Polyline Unrounded) :
    shape.closeLoop.perimeter = shape.perimeter := segmentSum_closeLoop dist_self _

theorem moment_closeLoop {weight : ℂ → ℂ → ℝ} (zero : ∀ a, weight a a = 0) :
    shape.closeLoop.moment weight c = shape.moment weight c :=
  segmentSum_closeLoop (fun a => by rw [zero, Complex.ofReal_zero, mul_zero]) _

theorem IsCenter.closeLoop (center : shape.IsCenter c) : shape.closeLoop.IsCenter c := by
  apply center.transfer
  · rw [doubleArea_closeLoop]
  · rw [perimeter_closeLoop]
  · rw [moment_closeLoop cross_self]
    exact id
  · rw [moment_closeLoop dist_self]
    exact id
  · exact fun each p member => each p (mem_of_mem_closeLoop member)

end

end RoadSketch.Polyline
