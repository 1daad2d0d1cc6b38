import RoadSketch.Polyline.Shift
import RoadSketch.Proofs.Plane
import RoadSketch.Proofs.Segments

/-!
# Corners of parallel polylines

A polyline that is moved sideways keeps its points one by one, once repeated points are dropped. Its
ends are those of the outermost segments, each moved on its own. In between, neighbouring segments
are moved apart or into each other, and the point between them goes to where the lines through them
meet.

## Main result

`shift_corners`: how many points a moved polyline has, and where each of them is.
-/
namespace RoadSketch

namespace Line

/-- A segment is moved sideways whatever its length and the width are. -/
theorem exists_shift (line : Line Exact) (width : Exact) :
    ∃ moved, line.shift width = .ok moved := by
  have nonneg : 0 ≤ (Scalar.trim (Scalar.abs width)).value := Exact.trim_nonneg (abs_nonneg _)
  rw [shift, Distance.ofMeters_eq_ok, Checked.ok_bind]
  simp only [Point.project_eq_ok _ _ nonneg, Checked.ok_bind]
  exact ⟨_, rfl⟩

/-! ### Infinite lines -/

/-- The infinite line through a segment. -/
noncomputable def extension (line : Line Exact) : AffineSubspace ℝ ℂ :=
  line[ℝ, line.start.place, line.finish.place]

theorem mem_extension_iff {line : Line Exact} {z : ℂ} :
    z ∈ line.extension ↔ ∃ share, line.along share = z :=
  mem_affineSpan_pair_iff_exists_lineMap_eq

theorem re_along (line : Line Exact) (share : ℝ) : (line.along share).re =
    share * (line.finish.x.value - line.start.x.value) + line.start.x.value := by
  simp [along, AffineMap.lineMap_apply, Point.place]

theorem im_along (line : Line Exact) (share : ℝ) : (line.along share).im =
    share * (line.finish.y.value - line.start.y.value) + line.start.y.value := by
  simp [along, AffineMap.lineMap_apply, Point.place]

/-- How far two segments are from being parallel, with a sign. -/
noncomputable def skew (l m : Line Exact) : ℝ :=
  (l.start.x.value - l.finish.x.value) * (m.start.y.value - m.finish.y.value) -
    (l.start.y.value - l.finish.y.value) * (m.start.x.value - m.finish.x.value)

/-- The cross product of the two ends. -/
noncomputable def moment (line : Line Exact) : ℝ :=
  line.start.x.value * line.finish.y.value - line.start.y.value * line.finish.x.value

/-- Where two infinite lines meet, before it is brought to the stored precision. -/
noncomputable def crossing (l m : Line Exact) : ℂ where
  re := (l.moment * (m.start.x.value - m.finish.x.value) -
    (l.start.x.value - l.finish.x.value) * m.moment) / l.skew m
  im := (l.moment * (m.start.y.value - m.finish.y.value) -
    (l.start.y.value - l.finish.y.value) * m.moment) / l.skew m

/-- At which share of the way along the first segment that is. -/
noncomputable def crossingShare (l m : Line Exact) : ℝ :=
  ((l.start.x.value - m.start.x.value) * (m.start.y.value - m.finish.y.value) -
    (l.start.y.value - m.start.y.value) * (m.start.x.value - m.finish.x.value)) / l.skew m

theorem skew_comm (l m : Line Exact) : m.skew l = -l.skew m := by
  simp only [skew]
  ring

theorem crossing_comm (l m : Line Exact) : m.crossing l = l.crossing m := by
  rw [crossing, crossing, skew_comm]
  apply Complex.ext
  · rw [div_neg, ← neg_div]
    ring
  · rw [div_neg, ← neg_div]
    ring

theorem along_crossingShare {l m : Line Exact} (skewed : l.skew m ≠ 0) :
    l.along (l.crossingShare m) = l.crossing m := by
  apply Complex.ext
  · rw [re_along, crossingShare, crossing, div_mul_eq_mul_div, div_add' _ _ _ skewed]
    congr 1
    simp only [skew, moment]
    ring
  · rw [im_along, crossingShare, crossing, div_mul_eq_mul_div, div_add' _ _ _ skewed]
    congr 1
    simp only [skew, moment]
    ring

theorem crossing_mem {l m : Line Exact} (skewed : l.skew m ≠ 0) : l.crossing m ∈ l.extension :=
  mem_extension_iff.mpr ⟨_, along_crossingShare skewed⟩

theorem eq_crossing {l m : Line Exact} (skewed : l.skew m ≠ 0) {z : ℂ}
    (first : z ∈ l.extension) (second : z ∈ m.extension) : z = l.crossing m := by
  obtain ⟨s, rfl⟩ := mem_extension_iff.mp first
  obtain ⟨t, same⟩ := mem_extension_iff.mp second
  have across := congrArg Complex.re same
  have down := congrArg Complex.im same
  rw [re_along, re_along] at across
  rw [im_along, im_along] at down
  -- Between the two coordinates, the share along the other segment cancels out.
  have share : s = l.crossingShare m := by
    rw [crossingShare, eq_div_iff skewed, skew]
    linear_combination (m.start.y.value - m.finish.y.value) * across -
      (m.start.x.value - m.finish.x.value) * down
  rw [share, along_crossingShare skewed]

/-- Two infinite lines have this place in common and no other. -/
structure Meet (l m : Line Exact) (z : ℂ) : Prop where
  first : z ∈ l.extension
  second : z ∈ m.extension
  only : ∀ w ∈ l.extension, w ∈ m.extension → w = z

theorem meet_crossing {l m : Line Exact} (skewed : l.skew m ≠ 0) : Meet l m (l.crossing m) where
  first := crossing_mem skewed
  second := by
    have turned : m.skew l ≠ 0 := by
      rw [skew_comm]
      exact neg_ne_zero.mpr skewed
    rw [← crossing_comm]
    exact crossing_mem turned
  only _ := eq_crossing skewed

/-- Where two segments are taken to meet: where their infinite lines do, unless the segments look
parallel. -/
theorem intersection_cases (l m : Line Exact) : l.intersection m = .ok none ∨
    ∃ z, Meet l m z ∧ l.intersection m = .ok (some (.nearestTo z)) := by
  simp only [intersection, length_eq_ok, Checked.ok_bind, Point.ofCoordinates_eq_ok]
  split
  · exact .inl rfl
  · next apart =>
    refine .inr ⟨_, meet_crossing ?_, rfl⟩
    -- The bound below which segments look parallel is not negative, so parallel ones do.
    intro parallel
    apply apart
    have lengths := mul_nonneg l.storedLength_nonneg m.storedLength_nonneg
    change |l.skew m| ≤ _
    rw [parallel, abs_zero]
    simp only [Exact.value_mul, Exact.value_div, Exact.value_literal, mul_assoc]
    exact mul_nonneg (by norm_num) lengths

end Line

namespace Polyline

section
variable {α : Type} [Scalar α]

theorem cons_dropRepeats (kept : Point α) (rest : List (Point α)) :
    kept :: dropRepeats kept rest = rest.destutter' (fun kept p => ¬p.coincides kept) kept := by
  induction rest generalizing kept with
  | nil => rfl
  | cons p rest ih =>
    rw [dropRepeats, List.destutter']
    by_cases same : p.coincides kept
    · rw [if_pos same, if_neg (not_not.mpr same), ih]
    · rw [if_neg same, if_pos same, ih]

/-- Of all points, those are kept that do not coincide with the one kept before. -/
theorem withoutRepeats_eq (shape : Polyline α) :
    shape.withoutRepeats = ⟨shape.points.destutter fun kept p => ¬p.coincides kept⟩ := by
  obtain ⟨points⟩ := shape
  cases points with
  | nil => rfl
  | cons first rest => exact congrArg Polyline.mk (cons_dropRepeats first rest)

end

/-- What becomes of the point between two segments that are moved sideways. -/
inductive Corner (earlier later : Line Exact) : Point Exact → Prop
  | parallel : earlier.intersection later = .ok none → Corner earlier later earlier.finish
  | meeting {z : ℂ} : Line.Meet earlier later z →
      earlier.intersection later = .ok (some (.nearestTo z)) →
      Corner earlier later (.nearestTo z)

theorem exists_corner (earlier later : Line Exact) :
    ∃ p, corner earlier later = .ok p ∧ Corner earlier later p := by
  rcases earlier.intersection_cases later with parallel | ⟨z, meet, met⟩
  · refine ⟨_, ?_, .parallel parallel⟩
    rw [corner, parallel]
    rfl
  · refine ⟨_, ?_, .meeting meet met⟩
    rw [corner, met]
    rfl

/-- A polyline that joins segments: from where the first starts, through the corners between
neighbours, to where the last ends. -/
structure Joint (lines : List (Line Exact)) (shape : Polyline Exact) : Prop where
  length : shape.points.length = lines.length + 1
  first : shape.first? = lines.head?.map Line.start
  last : shape.last? = lines.getLast?.map Line.finish
  corner : ∀ i earlier later, lines[i]? = some earlier → lines[i + 1]? = some later →
    ∃ p, shape.points[i + 1]? = some p ∧ Corner earlier later p

theorem joint_corners {lines : List (Line Exact)} {first last : Line Exact}
    {corners : List (Point Exact)} (starts : lines.head? = some first)
    (ends : lines.getLast? = some last)
    (made : (lines.zip lines.tail).mapM (fun (earlier, later) => corner earlier later) =
      .ok corners) : Joint lines ⟨first.start :: corners ++ [last.finish]⟩ where
  length := by
    have counted : corners.length = lines.length - 1 := by
      rw [Checked.length_of_mapM made, List.length_zip, List.length_tail]
      omega
    have several := List.length_pos_of_mem (List.mem_of_head? starts)
    simp only [List.cons_append, List.length_cons, List.length_append, List.length_nil, counted]
    omega
  first := by
    rw [starts]
    rfl
  last := by
    rw [ends]
    exact List.getLast?_concat
  corner := by
    intro i earlier later here next
    have pair : (lines.zip lines.tail)[i]? = some (earlier, later) := by
      rw [List.getElem?_zip_eq_some, List.getElem?_tail]
      exact ⟨here, next⟩
    obtain ⟨p, found, there⟩ := Checked.getElem?_of_mapM made pair
    obtain ⟨q, taken, placed⟩ := exists_corner earlier later
    obtain rfl : q = p := Except.ok.inj (taken.symm.trans found)
    refine ⟨q, ?_, placed⟩
    -- The start stands in front of the corners, so that each is one place further on.
    obtain ⟨within, _⟩ := List.getElem?_eq_some_iff.mp there
    rw [List.cons_append, List.getElem?_cons_succ, List.getElem?_append_left within, there]

/-- With something to move and somewhere to move it, the segments are moved one by one and joined
again. -/
theorem exists_shift_of_width {shape : Polyline Exact} {width : Exact} (wide : width ≠ 0)
    (several : 2 ≤ shape.withoutRepeats.points.length) :
    ∃ lines moved, shape.withoutRepeats.segments.mapM (·.shift width) = .ok lines ∧
      shape.shift width = .ok moved ∧ Joint lines moved := by
  obtain ⟨lines, made⟩ := Checked.exists_mapM shape.withoutRepeats.segments
    fun line => line.exists_shift width
  -- With two points or more, there is a first segment and a last one.
  have counted := Checked.length_of_mapM made
  rw [length_segments] at counted
  have present : lines ≠ [] := List.ne_nil_of_length_pos (by omega)
  have starts := List.head?_eq_some_head present
  have ends := List.getLast?_eq_some_getLast present
  obtain ⟨corners, joined⟩ := Checked.exists_mapM
    (f := fun (pair : Line Exact × Line Exact) => corner pair.1 pair.2) (lines.zip lines.tail)
    fun pair => (exists_corner pair.1 pair.2).imp fun _ found => found.1
  refine ⟨lines, _, made, ?_, joint_corners starts ends joined⟩
  have stays : ¬(shape.withoutRepeats.points.length < 2 || width == 0) = true := by
    simp only [Bool.or_eq_true, decide_eq_true_eq, beq_iff_eq, not_or]
    exact ⟨by omega, wide⟩
  simp only [shift, if_neg stays, made, Checked.ok_bind, starts, ends, joined]
  rfl

/-! ### Main result -/

/-- Moving a polyline sideways drops repeated points and keeps all others one by one. Without a
width, or with a single point at most, these are the result. Otherwise the segments between them are
moved, and the result runs from the start of the first to the end of the last of these through a
corner for every two neighbours. -/
theorem shift_corners (shape : Polyline Exact) (width : Exact) :
    ∃ kept moved : Polyline Exact,
      kept.points = shape.points.destutter (fun kept p => ¬p.coincides kept) ∧
      shape.shift width = .ok moved ∧
      moved.points.length = kept.points.length ∧
      (width = 0 ∨ kept.points.length < 2 → moved = kept) ∧
      (width ≠ 0 → 2 ≤ kept.points.length →
        ∃ lines, kept.segments.mapM (·.shift width) = .ok lines ∧
          moved.first? = lines.head?.map Line.start ∧
          moved.last? = lines.getLast?.map Line.finish ∧
          ∀ i earlier later, lines[i]? = some earlier → lines[i + 1]? = some later →
            ∃ p, moved.points[i + 1]? = some p ∧ Corner earlier later p) := by
  have kept := congrArg Polyline.points shape.withoutRepeats_eq
  by_cases idle : width = 0 ∨ shape.withoutRepeats.points.length < 2
  · have stays : (decide (shape.withoutRepeats.points.length < 2) || width == 0) = true := by
      simpa [or_comm] using idle
    refine ⟨shape.withoutRepeats, shape.withoutRepeats, kept, if_pos stays, rfl, fun _ => rfl, ?_⟩
    intro wide several
    exact absurd idle (not_or.mpr ⟨wide, several.not_gt⟩)
  · obtain ⟨wide, several⟩ := not_or.mp idle
    obtain ⟨lines, moved, made, shifted, joint⟩ :=
      exists_shift_of_width wide (not_lt.mp several)
    refine ⟨shape.withoutRepeats, moved, kept, shifted, ?_, fun stays => absurd stays idle, ?_⟩
    · -- There is one segment less than points, and one point more than segments.
      have counted := Checked.length_of_mapM made
      rw [length_segments] at counted
      rw [joint.length, counted]
      omega
    · intro _ _
      exact ⟨lines, made, joint.first, joint.last, joint.corner⟩

end Polyline

end RoadSketch
