import RoadSketch.Proofs.Polyline.Balance
import RoadSketch.Proofs.Polyline.Total

/-!
# Centers of mass

The center that is computed for a shape is the one about which the ring around it balances, and the
area is that of the ring. Without a stored precision both follow the shape exactly when it is moved,
scaled, reversed or closed.

## Main result

`centroid?_area_laws`: the center and the area of a shape under all of these operations.
-/
namespace RoadSketch.Polyline

/-! ### Measured centers and areas -/

/-- What a sum over segments is, seen through `view`, if it starts from nothing. -/
theorem foldl_eq_segmentSum {σ M : Type} [AddCommGroup M] (view : σ → M) (term : ℂ → ℂ → M)
    {step : σ → Line Unrounded → σ}
    (adds : ∀ sum line, view (step sum line) =
      view sum + term line.start.position line.finish.position)
    {start : σ} (zero : view start = 0) (lines : List (Line Unrounded)) :
    view (lines.foldl step start) = segmentSum lines term := by
  have run : ∀ start, view (lines.foldl step start) = view start + segmentSum lines term := by
    induction lines with
    | nil => simp [segmentSum]
    | cons line rest ih =>
      intro start
      rw [List.foldl_cons, ih, adds, add_assoc]
      rfl
  rw [run, zero, zero_add]

theorem value_area (shape : Polyline Unrounded) : shape.area.value = |shape.doubleArea / 2| := by
  have sum : (shape.ringSegments.foldl (fun sum line => sum + crossProduct line) 0).value =
      shape.doubleArea :=
    foldl_eq_segmentSum Unrounded.value cross (fun _ _ => rfl) Nat.cast_zero _
  unfold area
  split
  next few =>
    -- Between two points the ring goes one way and back.
    have flat : shape.doubleArea = 0 := by
      obtain ⟨points⟩ := shape
      match points, few with
      | [], _ => rfl
      | [p], _ => simp [doubleArea, ringSegments, segmentSum]
      | [p, q], _ => simp [doubleArea, ringSegments, segmentSum, cross_swap p.position q.position]
    rw [flat]
    simp
  next => simp [sum]

theorem area_bne_zero {shape : Polyline Unrounded} : shape.area != 0 ↔ shape.doubleArea ≠ 0 := by
  rw [bne_iff_ne, Ne, Unrounded.ext_iff, value_area, Unrounded.value_literal, Nat.cast_zero,
    abs_eq_zero]
  simp

/-- Where sums of coordinates with weights lie. -/
noncomputable def Moment.position (moment : Moment Unrounded) : ℂ :=
  ⟨moment.x.value, moment.y.value⟩

theorem Moment.position_zero : Moment.position ⟨0, 0, 0⟩ = 0 := by
  apply Complex.ext <;> simp [Moment.position]

theorem Moment.position_div (moment : Moment Unrounded) (weight : Unrounded) :
    Point.position ⟨moment.x / weight, moment.y / weight⟩ = moment.position / weight.value := by
  apply Complex.ext <;> simp [Moment.position, Point.position]

theorem position_areaMoment (lines : List (Line Unrounded)) :
    (areaMoment lines).position = segmentSum lines fun a b => (a + b) * cross a b := by
  apply foldl_eq_segmentSum Moment.position
  · intro sum line
    apply Complex.ext <;> simp [Moment.position, crossProduct, cross, Point.position]
  · exact Moment.position_zero

theorem weight_areaMoment (lines : List (Line Unrounded)) :
    (areaMoment lines).weight.value = segmentSum lines cross := by
  apply foldl_eq_segmentSum fun moment : Moment Unrounded => moment.weight.value
  · exact fun _ _ => rfl
  · exact Nat.cast_zero

theorem position_lengthMoment (lines : List (Line Unrounded)) :
    (lengthMoment lines).position =
      (segmentSum lines fun a b => (a + b) * (dist a b : ℂ)) / 2 := by
  rw [div_eq_inv_mul, ← segmentSum_mul_left]
  apply foldl_eq_segmentSum Moment.position
  · intro sum line
    have half (x : ℝ) : x / 2 = 2⁻¹ * x := div_eq_inv_mul x 2
    rw [← Line.exactLength_eq_dist]
    apply Complex.ext <;> simp [Moment.position, Point.position, half]
  · exact Moment.position_zero

theorem weight_lengthMoment (lines : List (Line Unrounded)) :
    (lengthMoment lines).weight.value = segmentSum lines dist := by
  apply foldl_eq_segmentSum fun moment : Moment Unrounded => moment.weight.value
  · intro sum line
    rw [← Line.exactLength_eq_dist]
    rfl
  · exact Nat.cast_zero

/-! ### The computed center -/

/-- The path that the center is taken from runs along the ring. -/
theorem segmentSum_closed {M : Type} [AddCommGroup M] {term : ℂ → ℂ → M}
    (zero : ∀ a, term a a = 0) (first : Point Unrounded) (rest : List (Point Unrounded)) :
    segmentSum (if isClosed ⟨first :: rest⟩ then (⟨first :: rest⟩ : Polyline Unrounded)
      else push ⟨first :: rest⟩ first).segments term =
      segmentSum (ringSegments ⟨first :: rest⟩) term := by
  split
  next closed => rw [ringSegments_of_isClosed closed, segmentSum_append_self zero]
  next => rw [ringSegments_cons]

/-- What is computed for a shape is its center. -/
theorem centroid?_of_isCenter {shape : Polyline Unrounded} (present : shape.points ≠ [])
    {center : Point Unrounded} (balanced : shape.IsCenter center.position) :
    shape.centroid? = .ok (some center) := by
  obtain ⟨points⟩ := shape
  cases points with
  | nil => exact absurd rfl present
  | cons first rest =>
    -- From here on only the sums over the path count, which are those over the ring.
    have around {M : Type} [AddCommGroup M] {term : ℂ → ℂ → M} (zero : ∀ a, term a a = 0) :=
      segmentSum_closed zero first rest
    simp only [centroid?, Point.ofCoordinates_unrounded, Checked.ok_bind]
    generalize (if isClosed ⟨first :: rest⟩ then (⟨first :: rest⟩ : Polyline Unrounded)
      else push ⟨first :: rest⟩ first).segments = lines at around ⊢
    have weightless : (lengthMoment lines).weight == 0 ↔ perimeter ⟨first :: rest⟩ = 0 := by
      rw [beq_iff_eq, Unrounded.ext_iff, weight_lengthMoment, around dist_self]
      simp [perimeter]
    have found {p : Point Unrounded} (there : p.position = center.position) :
        (pure (some p) : Checked Unrounded (Option (Point Unrounded))) = .ok (some center) := by
      rw [Point.position_injective there]
      rfl
    cases balanced with
    | area encloses balanced =>
      rw [if_pos (area_bne_zero.mpr encloses)]
      apply found
      rw [Moment.position_div, position_areaMoment, Unrounded.value_mul, weight_areaMoment,
        around (by simp), around cross_self, ← (moment_cross_eq_zero encloses).mp balanced]
      simp [doubleArea]
    | length flat long balanced =>
      have noArea := mt area_bne_zero.mp (not_not.mpr flat)
      rw [if_neg noArea, if_neg (mt weightless.mp long)]
      apply found
      rw [Moment.position_div, position_lengthMoment, weight_lengthMoment, around (by simp),
        around dist_self]
      exact (moment_dist_eq_zero long).mp balanced
    | point each =>
      have flat : doubleArea ⟨first :: rest⟩ = 0 := segmentSum_of_point cross_self each
      have short : perimeter ⟨first :: rest⟩ = 0 := segmentSum_of_point dist_self each
      have noArea := mt area_bne_zero.mp (not_not.mpr flat)
      rw [if_neg noArea, if_pos (weightless.mpr short)]
      exact found (each first List.mem_cons_self)

/-! ### Main result -/

section
variable {shape : Polyline Unrounded} {center : Point Unrounded}

/-- A shape that is moved or scaled point by point has the center that its own one is moved to. -/
theorem centroid?_map {f : Point Unrounded → Point Unrounded} {T : ℂ → ℂ} {factor : ℝ}
    (moves : ∀ p, (f p).position = T p.position) (affine : ∀ a b, T a - T b = factor * (a - b))
    (nonzero : factor ≠ 0) (present : shape.points ≠ [])
    (balanced : shape.IsCenter center.position) :
    centroid? ⟨shape.points.map f⟩ = .ok (some (f center)) ∧
      (area ⟨shape.points.map f⟩).value = factor * factor * shape.area.value := by
  constructor
  · apply centroid?_of_isCenter (List.map_eq_nil_iff.not.mpr present)
    rw [moves]
    exact balanced.map moves affine nonzero
  · rw [value_area, value_area, doubleArea_map moves affine, mul_div_assoc, abs_mul, abs_sq, sq]

theorem exists_scale_of_isCenter (present : shape.points ≠ [])
    (balanced : shape.IsCenter center.position) {factor : Unrounded} (nonzero : factor ≠ 0) :
    ∃ scaled, shape.scale factor = .ok scaled ∧ scaled.centroid? = .ok (some center) ∧
      scaled.area = factor * factor * shape.area := by
  let f (p : Point Unrounded) : Point Unrounded :=
    ⟨center.x + (p.x - center.x) * factor, center.y + (p.y - center.y) * factor⟩
  have made : shape.scale factor = .ok ⟨shape.points.map f⟩ := by
    rw [scale, centroid?_of_isCenter present balanced, Checked.ok_bind]
    exact mapPoints_eq_ok fun p _ => Point.ofCoordinates_unrounded _ _
  have moves (p : Point Unrounded) : (f p).position =
      center.position + (p.position - center.position) * factor.value := by
    apply Complex.ext <;> simp [f, Point.position]
  have affine (a b : ℂ) : center.position + (a - center.position) * factor.value -
      (center.position + (b - center.position) * factor.value) = factor.value * (a - b) := by
    ring
  have fixed : f center = center := by
    apply Point.position_injective
    rw [moves]
    ring
  have nonzeroValue : factor.value ≠ 0 := fun zero => nonzero (Unrounded.ext (by simpa using zero))
  obtain ⟨found, grown⟩ := centroid?_map moves affine nonzeroValue present balanced
  rw [fixed] at found
  exact ⟨_, made, found, Unrounded.ext grown⟩

theorem exists_translate_of_isCenter (present : shape.points ≠ [])
    (balanced : shape.IsCenter center.position) (dx dy : Unrounded) :
    ∃ moved, shape.translate dx dy = .ok moved ∧
      moved.centroid? = .ok (some ⟨center.x + dx, center.y + dy⟩) ∧ moved.area = shape.area := by
  let f (p : Point Unrounded) : Point Unrounded := ⟨p.x + dx, p.y + dy⟩
  have made : shape.translate dx dy = .ok ⟨shape.points.map f⟩ :=
    mapPoints_eq_ok fun p _ => Point.ofCoordinates_unrounded _ _
  have moves (p : Point Unrounded) : (f p).position = p.position + ⟨dx.value, dy.value⟩ := rfl
  have affine (a b : ℂ) : a + ⟨dx.value, dy.value⟩ - (b + ⟨dx.value, dy.value⟩) =
      (1 : ℝ) * (a - b) := by
    rw [Complex.ofReal_one, one_mul]
    ring
  obtain ⟨found, kept⟩ := centroid?_map moves affine one_ne_zero present balanced
  rw [mul_one, one_mul] at kept
  exact ⟨_, made, found, Unrounded.ext kept⟩

theorem centroid?_reversed (present : shape.points ≠ [])
    (balanced : shape.IsCenter center.position) :
    shape.reversed.centroid? = .ok (some center) ∧ shape.reversed.area = shape.area := by
  constructor
  · exact centroid?_of_isCenter (List.reverse_eq_nil_iff.not.mpr present) balanced.reversed
  · apply Unrounded.ext
    rw [value_area, value_area, doubleArea_reversed, mul_div_assoc, abs_mul, abs_neg, abs_one,
      one_mul]

theorem centroid?_closeLoop (present : shape.points ≠ [])
    (balanced : shape.IsCenter center.position) :
    shape.closeLoop.centroid? = .ok (some center) ∧ shape.closeLoop.area = shape.area := by
  constructor
  · exact centroid?_of_isCenter (closeLoop_ne_nil present) balanced.closeLoop
  · apply Unrounded.ext
    rw [value_area, value_area, doubleArea_closeLoop]

/-- Every shape with points has a center. Scaling keeps it and multiplies the area by the square of
the factor, moving moves it and keeps the area, and reversing and closing keep both. -/
theorem centroid?_area_laws (present : shape.points ≠ []) :
    ∃ center, shape.centroid? = .ok (some center) ∧
      (∀ factor ≠ (0 : Unrounded), ∃ scaled, shape.scale factor = .ok scaled ∧
        scaled.centroid? = .ok (some center) ∧ scaled.area = factor * factor * shape.area) ∧
      (∀ dx dy : Unrounded, ∃ moved, shape.translate dx dy = .ok moved ∧
        moved.centroid? = .ok (some ⟨center.x + dx, center.y + dy⟩) ∧
        moved.area = shape.area) ∧
      (shape.reversed.centroid? = .ok (some center) ∧ shape.reversed.area = shape.area) ∧
      shape.closeLoop.centroid? = .ok (some center) ∧ shape.closeLoop.area = shape.area := by
  obtain ⟨center, balanced⟩ := exists_isCenter present
  refine ⟨center, centroid?_of_isCenter present balanced, ?_, ?_, ?_, ?_⟩
  · exact fun factor nonzero => exists_scale_of_isCenter present balanced nonzero
  · exact exists_translate_of_isCenter present balanced
  · exact centroid?_reversed present balanced
  · exact centroid?_closeLoop present balanced

end

/-- A ring with an area. -/
noncomputable def triangle : Polyline Unrounded := ⟨[⟨0, 0⟩, ⟨3, 0⟩, ⟨0, 3⟩]⟩

/-- A ring without an area. -/
noncomputable def wayBack : Polyline Unrounded := ⟨[⟨0, 0⟩, ⟨4, 0⟩, ⟨0, 0⟩]⟩

/-- A ring without any length. -/
noncomputable def standstill : Polyline Unrounded := ⟨[⟨1, 2⟩, ⟨1, 2⟩]⟩

/-- A triangle that is scaled, a way there and back that is moved, and a point that is reversed. -/
theorem centroid?_area_laws_of_triangle :
    (triangle.points ≠ [] ∧ triangle.doubleArea = 9 ∧ (2 : Unrounded) ≠ 0 ∧
      ∃ center scaled, triangle.centroid? = .ok (some center) ∧ triangle.scale 2 = .ok scaled ∧
        scaled.centroid? = .ok (some center) ∧ scaled.area = 2 * 2 * triangle.area) ∧
    (wayBack.points ≠ [] ∧ wayBack.doubleArea = 0 ∧ wayBack.perimeter = 8 ∧
      ∃ center moved, wayBack.centroid? = .ok (some center) ∧ wayBack.translate 1 2 = .ok moved ∧
        moved.centroid? = .ok (some ⟨center.x + 1, center.y + 2⟩) ∧ moved.area = wayBack.area) ∧
    (standstill.points ≠ [] ∧ standstill.perimeter = 0 ∧
      ∃ center, standstill.centroid? = .ok (some center) ∧
        standstill.reversed.centroid? = .ok (some center) ∧
        standstill.reversed.area = standstill.area) := by
  have triangleArea : triangle.doubleArea = 9 := by
    norm_num [doubleArea, triangle, ringSegments, segmentSum, cross, Point.position]
  have wayArea : wayBack.doubleArea = 0 := by
    simp [doubleArea, wayBack, ringSegments, segmentSum, cross, Point.position]
  have wayLength : wayBack.perimeter = 8 := by
    norm_num [perimeter, wayBack, ringSegments, segmentSum, Complex.dist_eq_re_im, Point.position]
  have noLength : standstill.perimeter = 0 := by
    simp [perimeter, standstill, ringSegments, segmentSum]
  have two : (2 : Unrounded) ≠ 0 := fun same => by simpa using congrArg Unrounded.value same
  refine ⟨⟨List.cons_ne_nil _ _, triangleArea, two, ?_⟩,
    ⟨List.cons_ne_nil _ _, wayArea, wayLength, ?_⟩, ⟨List.cons_ne_nil _ _, noLength, ?_⟩⟩
  · obtain ⟨center, found, scales, -⟩ := centroid?_area_laws (List.cons_ne_nil _ _)
    obtain ⟨scaled, made, kept, grown⟩ := scales 2 two
    exact ⟨center, scaled, found, made, kept, grown⟩
  · obtain ⟨center, found, -, moves, -⟩ := centroid?_area_laws (List.cons_ne_nil _ _)
    obtain ⟨moved, made, followed, kept⟩ := moves 1 2
    exact ⟨center, moved, found, made, followed, kept⟩
  · obtain ⟨center, found, -, -, ⟨kept, same⟩, -⟩ := centroid?_area_laws (List.cons_ne_nil _ _)
    exact ⟨center, found, kept, same⟩

end RoadSketch.Polyline
