import RoadSketch.Proofs.DoubleTurns
import RoadSketch.Proofs.Faults
import RoadSketch.Proofs.Order
import RoadSketch.Proofs.Plane

/-!
# Vertices of rings

The vertices of a ring divide a turn into equal parts. Every vertex is the point of the circle at
the tenth of a degree nearest to where its part begins, so none is looked up that is not there. The
last part ends where the first one begins, whatever the count of parts is.

## Main results

- `isNearStep_vertexStep_double`: doubles take vertices from where exact numbers do, up to little.
- `Polyline.ring_vertices`: a ring is closed, and its vertices are points of the circle.
-/
namespace RoadSketch

open Checked

variable {α : Type} [Scalar α]

/-! ### The nearest tenth of a degree -/

/-- Up to whole turns, a count of tenths of a degree is this close to a step. -/
def IsNearStep (bound tenths : ℝ) (step : Nat) : Prop :=
  ∃ turns : ℤ, |tenths - (step + turnSteps * turns)| ≤ bound

theorem isNearStep_of_near {bound tenths : ℝ} {nearest : ℤ} (near : |tenths - nearest| ≤ bound) :
    IsNearStep bound tenths (nearest % turnSteps).toNat := by
  have within : ((nearest % turnSteps).toNat : ℤ) = nearest % turnSteps :=
    Int.toNat_of_nonneg (Int.emod_nonneg _ (by decide))
  have parts : ((nearest % turnSteps).toNat : ℝ) + turnSteps * (nearest / turnSteps : ℤ) =
      nearest := by
    exact_mod_cast within ▸ Int.emod_add_mul_ediv nearest turnSteps
  exact ⟨nearest / turnSteps, by rwa [parts]⟩

theorem nearestStep_eq_floor (degrees : Exact) :
    nearestStep degrees = (⌊degrees.value * 10 + 1 / 2⌋ % turnSteps).toNat := by
  simp [nearestStep, Scalar.floorInt]

/-- No other tenth of a degree is nearer. -/
theorem isNearStep_nearestStep (degrees : Exact) :
    IsNearStep (1 / 2) (degrees.value * 10) (nearestStep degrees) := by
  have below := Int.floor_le (degrees.value * 10 + 1 / 2)
  have above := Int.lt_floor_add_one (degrees.value * 10 + 1 / 2)
  rw [nearestStep_eq_floor]
  refine isNearStep_of_near ?_
  rw [abs_le]
  constructor <;> linarith

theorem nearestStep_eq {degrees : Exact} (nearest : ℤ)
    (within : |degrees.value * 10 - nearest| < 1 / 2) :
    nearestStep degrees = (nearest % turnSteps).toNat := by
  have floor : ⌊degrees.value * 10 + 1 / 2⌋ = nearest := by
    rw [abs_lt] at within
    rw [Int.floor_eq_iff]
    constructor <;> linarith
  rw [nearestStep_eq_floor, floor]

/-! ### Points of a circle -/

/-- The point at some tenth of a degree on the circle around a center. -/
def Point.onCircle (center : Point α) (radius : α) (step : Nat) : Checked α (Point α) := do
  let (x, y) ← unitPoint step
  Point.ofCoordinates (x * radius + center.x) (y * radius + center.y)

theorem Point.isNumber_of_onCircle [LawfulOrder α] {center p : Point α} {radius : α} {step : Nat}
    (drawn : center.onCircle radius step = .ok p) : (p == p) = true := by
  obtain ⟨⟨x, y⟩, -, made⟩ := bind_eq_ok.mp drawn
  obtain ⟨⟨first, second⟩, rfl⟩ := ofCoordinates_eq_ok_iff.mp made
  exact Bool.and_eq_true_iff.mpr
    ⟨LawfulOrder.isNumber_trim _ first, LawfulOrder.isNumber_trim _ second⟩

/-! ### Steps of vertices -/

/-- The tenth of a degree at which a vertex of a ring is. -/
def vertexStep (α : Type) [Scalar α] (sides i : Nat) : Nat :=
  nearestStep (360 / Scalar.ofNat sides * Scalar.ofNat i : α)

theorem vertexStep_lt (α : Type) [Scalar α] (sides i : Nat) : vertexStep α sides i < turnSteps :=
  nearestStep_lt _

theorem tenths_eq (sides i : Nat) :
    (360 / Scalar.ofNat sides * Scalar.ofNat i : Exact).value * 10 = 3600 * i / sides := by
  change 360 / (sides : ℝ) * i * 10 = _
  ring

theorem isNearStep_vertexStep (sides i : Nat) :
    IsNearStep (1 / 2) (3600 * i / sides) (vertexStep Exact sides i) := by
  rw [← tenths_eq]
  exact isNearStep_nearestStep _

/-- Over doubles, a vertex is nearly as close to where its part begins. -/
theorem isNearStep_vertexStep_double {sides i : Nat} (positive : 0 < sides) (few : sides < 2 ^ 53)
    (within : i ≤ sides) :
    IsNearStep (1 / 2 + 1 / 2 ^ 36) (3600 * i / sides) (vertexStep Float sides i) := by
  obtain ⟨k, found, near⟩ := Double.exists_nearestStep_part positive few within
  have small : (1 / 2 + 28 * Double.roundingError : ℚ) ≤ 1 / 2 + 1 / 2 ^ 36 := by
    norm_num [Double.roundingError]
  have real : ((|(3600 * i / sides : ℚ) - k| : ℚ) : ℝ) ≤ ((1 / 2 + 1 / 2 ^ 36 : ℚ) : ℝ) :=
    Rat.cast_le.mpr (near.trans small)
  push_cast at real
  have step : vertexStep Float sides i = (k % turnSteps).toNat := found
  rw [step]
  exact isNearStep_of_near real

-- A seventh of a turn is between 514 and 515 tenths of a degree.
example : vertexStep Float 7 1 = 514 := by decide +kernel

/-! ### Ends of a turn -/

/-- Numbers with which a turn that is divided into parts ends where it begins. -/
class LawfulTurns (α : Type) [Scalar α] : Prop where
  closes : ∀ sides, 0 < sides → vertexStep α sides sides = vertexStep α sides 0

instance : LawfulTurns Exact where
  closes sides positive := by
    have count : (sides : ℝ) ≠ 0 := by exact_mod_cast positive.ne'
    have turn : (360 / Scalar.ofNat sides * Scalar.ofNat sides : Exact) = 360 := by
      ext
      exact div_mul_cancel₀ 360 count
    have nothing : (360 / Scalar.ofNat sides * Scalar.ofNat 0 : Exact) = 0 := Exact.mul_zero _
    have finish : nearestStep (360 : Exact) = 0 :=
      nearestStep_eq turnSteps (by norm_num [turnSteps])
    have start : nearestStep (0 : Exact) = 0 := nearestStep_eq 0 (by norm_num)
    rw [vertexStep, vertexStep, turn, nothing, finish, start]

instance : LawfulTurns Float where
  closes _ positive := Double.nearestStep_turn positive

/-! ### Rings -/

namespace Polyline

theorem ring_eq (center : Point α) (radius : α) {sides : Nat} (positive : 0 < sides) :
    ring center radius sides = do
      return ⟨← (List.range (sides + 1)).mapM fun i =>
        center.onCircle radius (vertexStep α sides i)⟩ := if_neg positive.ne'

/-- A ring has one vertex more than it has sides. -/
theorem vertices_of_ring {center : Point α} {radius : α} {sides : Nat} {shape : Polyline α}
    (positive : 0 < sides) (made : ring center radius sides = .ok shape) :
    shape.points.length = sides + 1 ∧
      ∀ i ≤ sides, ∃ p, shape.points[i]? = some p ∧
        center.onCircle radius (vertexStep α sides i) = .ok p := by
  rw [ring_eq center radius positive] at made
  obtain ⟨points, collected, kept⟩ := bind_eq_ok.mp made
  obtain rfl := pure_eq_ok.mp kept
  constructor
  · rw [length_of_mapM collected, List.length_range]
  · intro i within
    have index : (List.range (sides + 1))[i]? = some i :=
      List.getElem?_range (Nat.lt_succ_of_le within)
    obtain ⟨p, drawn, found⟩ := getElem?_of_mapM collected index
    exact ⟨p, found, drawn⟩

/-- There is a ring iff there are all of its vertices. -/
theorem exists_ring_iff (center : Point α) (radius : α) {sides : Nat} (positive : 0 < sides) :
    (∃ shape, ring center radius sides = .ok shape) ↔
      ∀ i ≤ sides, ∃ p, center.onCircle radius (vertexStep α sides i) = .ok p := by
  constructor
  · rintro ⟨shape, made⟩ i within
    obtain ⟨p, -, drawn⟩ := (vertices_of_ring positive made).2 i within
    exact ⟨p, drawn⟩
  · intro drawn
    have each : ∀ i ∈ List.range (sides + 1), ∃ p,
        center.onCircle radius (vertexStep α sides i) = .ok p := fun i member =>
      drawn i (Nat.le_of_lt_succ (List.mem_range.mp member))
    obtain ⟨points, collected⟩ := exists_mapM_of_mem each
    exact ⟨⟨points⟩, by rw [ring_eq center radius positive, collected]; rfl⟩

theorem isClosed_of_ends {shape : Polyline α} {p : Point α} (number : (p == p) = true)
    (many : 2 ≤ shape.points.length) (start : shape.first? = some p)
    (finish : shape.last? = some p) : shape.isClosed = true := by
  obtain ⟨points⟩ := shape
  match points, many with
  | first :: second :: rest, _ =>
    cases start
    rw [last?, List.getLast?_cons_cons] at finish
    change (some p == (second :: rest).getLast?) = true
    rw [finish]
    exact number

/-- There is a ring iff no vertex is out of range. It has one vertex more than sides, the last one
being the first, and each of them is the point of the circle at the tenth of a degree nearest to its
angle. -/
theorem ring_vertices [LawfulOrder α] [LawfulTurns α] (center : Point α) (radius : α) {sides : Nat}
    (positive : 0 < sides) :
    ring center radius sides ≠ .error .missingItem ∧
      ((∃ shape, ring center radius sides = .ok shape) ↔
        ∀ i ≤ sides, ∃ p, center.onCircle radius (vertexStep α sides i) = .ok p) ∧
      (∀ shape, ring center radius sides = .ok shape →
        shape.points.length = sides + 1 ∧ shape.last? = shape.first? ∧ shape.isClosed = true ∧
        ∀ i ≤ sides, ∃ p, shape.points[i]? = some p ∧
          center.onCircle radius (vertexStep α sides i) = .ok p) ∧
      ∀ i ≤ sides, vertexStep α sides i < turnSteps ∧
        IsNearStep (1 / 2) (3600 * i / sides) (vertexStep Exact sides i) := by
  refine ⟨ne_missingItem (isGeometric_ring center radius sides),
    exists_ring_iff center radius positive, ?_, ?_⟩
  · intro shape made
    obtain ⟨count, vertices⟩ := vertices_of_ring positive made
    obtain ⟨p, first, drawn⟩ := vertices 0 (Nat.zero_le sides)
    obtain ⟨q, last, closing⟩ := vertices sides le_rfl
    -- Both are at the same tenth of a degree, so they are the same point.
    rw [LawfulTurns.closes sides positive, drawn] at closing
    cases closing
    have start : shape.first? = some p := by rw [first?, List.head?_eq_getElem?, first]
    have finish : shape.last? = some p := by
      rw [last?, List.getLast?_eq_getElem?, count, Nat.add_sub_cancel, last]
    have closed : shape.isClosed = true := by
      apply isClosed_of_ends (Point.isNumber_of_onCircle drawn) _ start finish
      omega
    exact ⟨count, finish.trans start.symm, closed, vertices⟩
  · intro i _
    exact ⟨vertexStep_lt α sides i, isNearStep_vertexStep sides i⟩

end Polyline

/-! ### An exact ring -/

/-- No exact coordinate is out of range. -/
theorem Point.exists_onCircle (center : Point Exact) (radius : Exact) {step : Nat}
    (within : step ≤ turnSteps) : ∃ p, center.onCircle radius step = .ok p := by
  rw [onCircle, unitPoint, if_pos within, ok_bind]
  exact ⟨_, ofCoordinates_eq_ok _ _⟩

/-- Seven sides divide no turn into whole tenths of a degree. -/
theorem Polyline.ring_vertices_of_heptagon :
    0 < 7 ∧ ∃ shape, ring (⟨100, 30⟩ : Point Exact) 5 7 = .ok shape ∧ shape.points.length = 8 ∧
      shape.last? = shape.first? ∧ shape.isClosed = true ∧ vertexStep Exact 7 1 = 514 ∧
      IsNearStep (1 / 2) (3600 * 1 / 7) 514 := by
  have positive : 0 < 7 := by decide
  obtain ⟨-, exist, closed, nearest⟩ := ring_vertices (⟨100, 30⟩ : Point Exact) 5 positive
  obtain ⟨shape, made⟩ := exist.mpr fun i _ =>
    Point.exists_onCircle (⟨100, 30⟩ : Point Exact) 5 (vertexStep_lt Exact 7 i).le
  obtain ⟨count, ends, loop, -⟩ := closed shape made
  have first : vertexStep Exact 7 1 = 514 :=
    nearestStep_eq 514 (by rw [tenths_eq, abs_lt]; norm_num)
  have near := (nearest 1 (by decide)).2
  rw [first] at near
  exact ⟨positive, shape, made, count, ends, loop, first, by exact_mod_cast near⟩

end RoadSketch
