import Mathlib
import RoadSketch.Line
import RoadSketch.Proofs.Checked
import RoadSketch.Proofs.Exact

/-!
# Points with exact coordinates

No exact coordinate is out of range, so moving a point always has a result: the point moved to,
with its coordinates in the stored precision.
-/
namespace RoadSketch

namespace Point

instance {α : Type} [Scalar α] [LawfulBEq α] : LawfulBEq (Point α) where
  rfl {p} := by
    change (p.x == p.x && p.y == p.y) = true
    simp
  eq_of_beq {p q} same := by
    obtain ⟨first, second⟩ := Bool.and_eq_true_iff.mp same
    cases p
    cases q
    exact congrArg₂ Point.mk (eq_of_beq first) (eq_of_beq second)

/-- A point in the stored precision. -/
structure OnGrid (p : Point Exact) : Prop where
  x : p.x.OnGrid
  y : p.y.OnGrid

theorem onGrid_ofNat (i j : Nat) : OnGrid ⟨Scalar.ofNat i, Scalar.ofNat j⟩ :=
  ⟨Exact.onGrid_ofNat i, Exact.onGrid_ofNat j⟩

theorem ne_of_x {p q : Point Exact} (apart : p.x.value ≠ q.x.value) : p ≠ q := fun same =>
  apart (congrArg (fun point => point.x.value) same)

theorem ne_of_y {p q : Point Exact} (apart : p.y.value ≠ q.y.value) : p ≠ q := fun same =>
  apart (congrArg (fun point => point.y.value) same)

/-- The point of the stored precision nearest to some coordinates. -/
noncomputable def nearest (x y : Exact) : Point Exact := ⟨Scalar.trim x, Scalar.trim y⟩

theorem ofCoordinates_eq_ok (x y : Exact) : ofCoordinates x y = .ok (nearest x y) := if_pos rfl

theorem onGrid_nearest (x y : Exact) : (nearest x y).OnGrid :=
  ⟨Exact.onGrid_trim x, Exact.onGrid_trim y⟩

theorem OnGrid.nearest_eq {p : Point Exact} (grid : p.OnGrid) : nearest p.x p.y = p := by
  rw [nearest, Exact.trim_eq_iff.mpr grid.x, Exact.trim_eq_iff.mpr grid.y]

/-- A point moved along the ray from `center`. -/
noncomputable def scaled (center : Point Exact) (factor : Exact) (p : Point Exact) : Point Exact :=
  nearest (center.x + (p.x - center.x) * factor) (center.y + (p.y - center.y) * factor)

theorem scaleAround_eq_ok (p center : Point Exact) (factor : Exact) :
    p.scaleAround center factor = .ok (scaled center factor p) := ofCoordinates_eq_ok _ _

/-- Scaling by one moves no stored point. -/
theorem OnGrid.scaled_one {p : Point Exact} (grid : p.OnGrid) (center : Point Exact) :
    scaled center 1 p = p := by
  have back (a b : Exact) : a + (b - a) * 1 = b := by
    rw [Exact.mul_one]
    ext
    simp
  rw [scaled, back, back, grid.nearest_eq]

/-! ### Distances -/

/-- Where a point lies in the complex plane. -/
def place (p : Point Exact) : ℂ := ⟨p.x.value, p.y.value⟩

theorem place_injective : Function.Injective place := by
  intro p q same
  cases p
  cases q
  exact congrArg₂ Point.mk (Exact.ext (congrArg Complex.re same))
    (Exact.ext (congrArg Complex.im same))

theorem value_exactDistanceTo (p q : Point Exact) :
    (p.exactDistanceTo q).value = dist p.place q.place := by
  rw [Complex.dist_eq_re_im]
  simp [exactDistanceTo, squaredDistanceTo, Scalar.square, place, sq]

theorem value_squaredDistanceTo (p q : Point Exact) :
    (p.squaredDistanceTo q).value = dist p.place q.place ^ 2 := by
  have nonneg : 0 ≤ (p.squaredDistanceTo q).value :=
    add_nonneg (mul_self_nonneg _) (mul_self_nonneg _)
  rw [← value_exactDistanceTo, exactDistanceTo, Exact.value_sqrt, Real.sq_sqrt nonneg]

/-- How far the nearest point of the stored precision may be. -/
noncomputable def slack : ℝ := √2 / 20000

theorem dist_nearest_le (x y : Exact) : dist (nearest x y).place ⟨x.value, y.value⟩ ≤ slack := by
  have squares (c : Exact) : ((Scalar.trim c).value - c.value) ^ 2 ≤ (1 / 20000) ^ 2 :=
    sq_le_sq.mpr ((Exact.abs_trim_sub_le c).trans (le_abs_self _))
  have first := squares x
  have second := squares y
  rw [Complex.dist_eq_re_im, Real.sqrt_le_iff, slack, div_pow, Real.sq_sqrt zero_le_two]
  exact ⟨by positivity, by simp only [nearest, place]; linarith⟩

/-- The point of the stored precision nearest to a place in the plane. -/
noncomputable def nearestTo (z : ℂ) : Point Exact := nearest ⟨z.re⟩ ⟨z.im⟩

theorem onGrid_nearestTo (z : ℂ) : (nearestTo z).OnGrid := onGrid_nearest _ _

theorem dist_nearestTo_le (z : ℂ) : dist (nearestTo z).place z ≤ slack :=
  dist_nearest_le ⟨z.re⟩ ⟨z.im⟩

theorem OnGrid.nearestTo_place {p : Point Exact} (grid : p.OnGrid) : nearestTo p.place = p :=
  grid.nearest_eq

/-- A place less than half a step from a stored point is brought to it. -/
theorem OnGrid.nearestTo_eq {p : Point Exact} (grid : p.OnGrid) {z : ℂ}
    (close : dist z p.place < 1 / 20000) : nearestTo z = p := by
  rw [dist_eq_norm] at close
  have first : Scalar.trim ⟨z.re⟩ = p.x :=
    grid.x.trim_eq_of_near ((Complex.abs_re_le_norm (z - p.place)).trans_lt close)
  have second : Scalar.trim ⟨z.im⟩ = p.y :=
    grid.y.trim_eq_of_near ((Complex.abs_im_le_norm (z - p.place)).trans_lt close)
  rw [nearestTo, nearest, first, second]

theorem slack_nonneg : 0 ≤ slack := by
  rw [slack]
  positivity

theorem slack_le : slack ≤ 3 / 40000 := by
  have root : √2 ≤ 3 / 2 := Real.sqrt_two_lt_three_halves.le
  rw [slack]
  linarith

/-- Two points of the stored precision that differ are a ten-thousandth of a meter apart. -/
theorem OnGrid.le_dist {p q : Point Exact} (start : p.OnGrid) (finish : q.OnGrid) (differ : p ≠ q) :
    1 / 10000 ≤ dist p.place q.place := by
  have apart : p.x.value ≠ q.x.value ∨ p.y.value ≠ q.y.value := by
    by_contra! same
    exact differ (place_injective (Complex.ext same.1 same.2))
  rw [dist_eq_norm]
  rcases apart with first | second
  · exact ((start.x.sub finish.x).le_abs (sub_ne_zero.mpr first)).trans
      (Complex.abs_re_le_norm (p.place - q.place))
  · exact ((start.y.sub finish.y).le_abs (sub_ne_zero.mpr second)).trans
      (Complex.abs_im_le_norm (p.place - q.place))

theorem OnGrid.eq_of_dist_le {p q : Point Exact} (start : p.OnGrid) (finish : q.OnGrid)
    (close : dist p.place q.place ≤ slack) : p = q := by
  by_contra differ
  exact absurd (start.le_dist finish differ) (not_le.mpr (by linarith [slack_le]))

theorem coincides_self (p : Point Exact) : p.coincides p := by
  simp [coincides, isNear, Distance.tolerance]

/-- Points of the stored precision count as one iff they are one. -/
theorem OnGrid.coincides_iff {p q : Point Exact} (start : p.OnGrid) (finish : q.OnGrid) :
    p.coincides q ↔ p = q := by
  have threshold : (Distance.tolerance : Distance Exact).meters.value = 1 / 10000 := by
    simp [Distance.tolerance]
  simp only [coincides, isNear, Bool.and_eq_true, decide_eq_true_eq, Exact.lt_iff, threshold,
    Exact.value_abs, Exact.value_sub]
  constructor
  · rintro ⟨first, second⟩
    have sameX : p.x.value - q.x.value = 0 := by
      by_contra differ
      exact absurd ((start.x.sub finish.x).le_abs differ) (not_le.mpr first)
    have sameY : p.y.value - q.y.value = 0 := by
      by_contra differ
      exact absurd ((start.y.sub finish.y).le_abs differ) (not_le.mpr second)
    exact place_injective (Complex.ext (sub_eq_zero.mp sameX) (sub_eq_zero.mp sameY))
  · rintro rfl
    simp

theorem project_eq_ok (p : Point Exact) {distance : Distance Exact} (angle : Angle Exact)
    (nonneg : 0 ≤ distance.meters.value) : p.project distance angle = .ok (.nearest
      (p.x + distance.meters * Scalar.cos angle.normalRadians)
      (p.y + distance.meters * Scalar.sin angle.normalRadians)) := by
  have forward : (Distance.zero : Distance Exact) ≤ distance := by simpa using nonneg
  rw [project, if_pos forward]
  exact ofCoordinates_eq_ok _ _

end Point

namespace Line

/-! ### Positions along a segment -/

/-- The length of a segment in the stored precision. -/
noncomputable def storedLength (line : Line Exact) : Distance Exact :=
  ⟨Scalar.trim line.exactLength⟩

theorem length_eq_ok (line : Line Exact) : line.length = .ok line.storedLength :=
  Distance.ofMeters_eq_ok _

theorem pointAtShare_eq_ok (line : Line Exact) (share : Exact) :
    line.pointAtShare share = .ok (.nearest
      (line.start.x + share * (line.finish.x - line.start.x))
      (line.start.y + share * (line.finish.y - line.start.y))) :=
  Point.ofCoordinates_eq_ok _ _

/-- Where some share of the way leads, without rounding. -/
noncomputable def along (line : Line Exact) (share : ℝ) : ℂ :=
  AffineMap.lineMap line.start.place line.finish.place share

theorem pointAtShare_eq_nearestTo (line : Line Exact) (share : Exact) :
    line.pointAtShare share = .ok (.nearestTo (line.along share.value)) := by
  have placed : line.along share.value =
      ⟨(line.start.x + share * (line.finish.x - line.start.x)).value,
        (line.start.y + share * (line.finish.y - line.start.y)).value⟩ := by
    apply Complex.ext <;> simp [along, AffineMap.lineMap_apply, Point.place, add_comm]
  rw [placed]
  exact line.pointAtShare_eq_ok share

theorem exists_pointAtShare (line : Line Exact) (share : Exact) :
    ∃ p, line.pointAtShare share = .ok p ∧ p.OnGrid ∧
      dist p.place (line.along share.value) ≤ Point.slack :=
  ⟨_, line.pointAtShare_eq_nearestTo share, Point.onGrid_nearestTo _, Point.dist_nearestTo_le _⟩

theorem value_exactLength (line : Line Exact) :
    line.exactLength.value = dist line.start.place line.finish.place :=
  Point.value_exactDistanceTo _ _

theorem exactLength_nonneg (line : Line Exact) : 0 ≤ line.exactLength.value := by
  rw [value_exactLength]
  exact dist_nonneg

theorem exactLength_le_zero_iff {line : Line Exact} :
    line.exactLength ≤ 0 ↔ line.start = line.finish := by
  have zero : (0 : Exact).value = 0 := by simp
  rw [Exact.le_iff, zero, value_exactLength, dist_le_zero]
  exact Point.place_injective.eq_iff

theorem onGrid_storedLength (line : Line Exact) : line.storedLength.OnGrid := Exact.onGrid_trim _

theorem abs_storedLength_sub_le (line : Line Exact) :
    |line.storedLength.meters.value - line.exactLength.value| ≤ 1 / 20000 :=
  Exact.abs_trim_sub_le _

theorem storedLength_nonneg (line : Line Exact) : 0 ≤ line.storedLength.meters.value :=
  Exact.trim_nonneg line.exactLength_nonneg

/-- At which share of the way the line through a segment comes nearest to a point. -/
noncomputable def projection (line : Line Exact) (p : Point Exact) : Exact :=
  ((p.x - line.start.x) * (line.finish.x - line.start.x) +
    (p.y - line.start.y) * (line.finish.y - line.start.y)) /
    line.finish.squaredDistanceTo line.start

theorem projection_start (line : Line Exact) : line.projection line.start = 0 := by
  ext
  simp [projection]

theorem projection_finish {line : Line Exact} (long : line.start ≠ line.finish) :
    line.projection line.finish = 1 := by
  have apart : (line.finish.squaredDistanceTo line.start).value ≠ 0 := by
    rw [Point.value_squaredDistanceTo, pow_ne_zero_iff two_ne_zero, dist_ne_zero]
    exact fun same => long (Point.place_injective same).symm
  have whole : (1 : Exact).value = 1 := by simp
  ext
  exact (div_self apart).trans whole.symm

/-- At which share of the way a segment comes nearest to a point. -/
noncomputable def footShare (line : Line Exact) (p : Point Exact) : Exact :=
  Scalar.clamp (line.projection p) 0 1

theorem nearestOffset_eq_ok (line : Line Exact) (p : Point Exact) :
    line.nearestOffset p =
      .ok ⟨Scalar.trim (line.storedLength.meters * line.footShare p)⟩ := by
  rw [nearestOffset, length_eq_ok, Checked.ok_bind]
  exact Distance.scale_eq_ok _ _

/-- The nearest position to a point is on the segment. -/
theorem exists_nearestOffset (line : Line Exact) (p : Point Exact) :
    ∃ offset, line.nearestOffset p = .ok offset ∧ offset.OnGrid ∧
      0 ≤ offset.meters.value ∧ offset.meters.value ≤ line.storedLength.meters.value := by
  refine ⟨_, line.nearestOffset_eq_ok p, Exact.onGrid_trim _, ?_⟩
  have positive : 0 ≤ (line.footShare p).value := (Exact.clamp_unit _).1
  have within : (line.footShare p).value ≤ 1 := (Exact.clamp_unit _).2
  have close := abs_le.mp (Exact.abs_trim_sub_le (line.storedLength.meters * line.footShare p))
  rw [Exact.value_mul] at close
  have least := mul_nonneg line.storedLength_nonneg positive
  have most := mul_le_of_le_one_right line.storedLength_nonneg within
  have grid := Exact.onGrid_trim (line.storedLength.meters * line.footShare p)
  constructor
  · exact grid.nonneg_of_lt (by linarith)
  · exact grid.le_of_lt_add line.onGrid_storedLength (by linarith)

/-- A segment comes nearest to its ends there. -/
theorem nearestOffset_start (line : Line Exact) : line.nearestOffset line.start = .ok .zero := by
  have foot : line.footShare line.start = 0 := by
    rw [footShare, projection_start]
    exact Exact.clamp_of_unit (by simp) (by simp)
  rw [nearestOffset_eq_ok, foot, Exact.mul_zero, Exact.trim_eq_iff.mpr Exact.onGrid_zero]
  rfl

theorem nearestOffset_finish {line : Line Exact} (long : line.start ≠ line.finish) :
    line.nearestOffset line.finish = .ok line.storedLength := by
  have foot : line.footShare line.finish = 1 := by
    rw [footShare, projection_finish long]
    exact Exact.clamp_of_unit (by simp) (by simp)
  rw [nearestOffset_eq_ok, foot, Exact.mul_one, Exact.trim_eq_iff.mpr line.onGrid_storedLength]

theorem value_share (part whole : Distance Exact) :
    (part.share whole).value = part.meters.value / whole.meters.value := by
  unfold Distance.share
  split
  next zero =>
    have nothing : whole.meters = 0 := eq_of_beq zero
    simp [nothing]
  next => rfl

theorem pointAt_eq_ok (line : Line Exact) (offset : Distance Exact) :
    line.pointAt offset = line.pointAtShare
      (Scalar.clamp (offset.share line.storedLength) 0 1) := by
  rw [pointAt, length_eq_ok, Checked.ok_bind]

/-- Positions on a segment, which are measured by its stored length. -/
theorem exists_pointAt {line : Line Exact} {offset : Distance Exact}
    (positive : 0 ≤ offset.meters.value)
    (within : offset.meters.value ≤ line.storedLength.meters.value) :
    ∃ p, line.pointAt offset = .ok p ∧ p.OnGrid ∧
      dist p.place (line.along (offset.meters.value / line.storedLength.meters.value)) ≤
        Point.slack := by
  have share := value_share offset line.storedLength
  have least := div_nonneg positive line.storedLength_nonneg
  have most := div_le_one_of_le₀ within line.storedLength_nonneg
  rw [← share] at least most
  rw [pointAt_eq_ok, Exact.clamp_of_unit least most, ← share]
  exact line.exists_pointAtShare _

/-- A segment between two points of the stored precision. -/
structure OnGrid (line : Line Exact) : Prop where
  start : line.start.OnGrid
  finish : line.finish.OnGrid

theorem OnGrid.le_exactLength {line : Line Exact} (grid : line.OnGrid)
    (long : line.start ≠ line.finish) : 1 / 10000 ≤ line.exactLength.value := by
  rw [value_exactLength]
  exact grid.start.le_dist grid.finish long

theorem OnGrid.storedLength_pos {line : Line Exact} (grid : line.OnGrid)
    (long : line.start ≠ line.finish) : 0 < line.storedLength.meters.value := by
  have length := grid.le_exactLength long
  linarith [(abs_le.mp line.abs_storedLength_sub_le).1]

theorem OnGrid.pointAt_zero {line : Line Exact} (grid : line.OnGrid) :
    line.pointAt .zero = .ok line.start := by
  have zero : (Distance.zero : Distance Exact).meters.value = 0 := Distance.value_zero
  obtain ⟨p, found, stored, close⟩ :=
    exists_pointAt zero.ge (zero.trans_le line.storedLength_nonneg)
  rw [zero, zero_div, along, AffineMap.lineMap_apply_zero] at close
  rw [found, stored.eq_of_dist_le grid.start close]

theorem OnGrid.pointAt_storedLength {line : Line Exact} (grid : line.OnGrid)
    (long : line.start ≠ line.finish) : line.pointAt line.storedLength = .ok line.finish := by
  obtain ⟨p, found, stored, close⟩ := exists_pointAt line.storedLength_nonneg le_rfl
  rw [div_self (grid.storedLength_pos long).ne', along, AffineMap.lineMap_apply_one] at close
  rw [found, stored.eq_of_dist_le grid.finish close]

end Line

end RoadSketch
