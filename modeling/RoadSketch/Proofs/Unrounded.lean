import RoadSketch.Proofs.Plane

/-!
# Numbers without a stored precision

The real numbers as scalars, where not even coordinates and distances are brought to a precision.
What moving and measuring do to a shape can be said by equations here. With the stored precision
these hold up to the rounding of every coordinate only.
-/
namespace RoadSketch

/-- The exact numbers, with nothing brought to a precision. -/
def Unrounded : Type := Exact

namespace Unrounded

noncomputable instance : Scalar Unrounded :=
  { (inferInstance : Scalar Exact) with trim := id }

def ofReal (v : ℝ) : Unrounded := Exact.mk v

def value (x : Unrounded) : ℝ := Exact.value x

@[ext] theorem ext {x y : Unrounded} (same : x.value = y.value) : x = y := Exact.ext same

@[simp] theorem value_add (x y : Unrounded) : (x + y).value = x.value + y.value :=
  Exact.value_add x y

@[simp] theorem value_sub (x y : Unrounded) : (x - y).value = x.value - y.value :=
  Exact.value_sub x y

@[simp] theorem value_mul (x y : Unrounded) : (x * y).value = x.value * y.value :=
  Exact.value_mul x y

@[simp] theorem value_div (x y : Unrounded) : (x / y).value = x.value / y.value :=
  Exact.value_div x y

@[simp] theorem value_abs (x : Unrounded) : (Scalar.abs x).value = |x.value| := Exact.value_abs x

@[simp] theorem value_sqrt (x : Unrounded) : (Scalar.sqrt x).value = Real.sqrt x.value :=
  Exact.value_sqrt x

@[simp] theorem value_literal (n : Nat) : (ofNat(n) : Unrounded).value = n := Exact.value_literal n

instance : LawfulBEq Unrounded := (inferInstance : LawfulBEq Exact)

end Unrounded

/-! ### Points -/

namespace Point

theorem ofCoordinates_unrounded (x y : Unrounded) : ofCoordinates x y = .ok ⟨x, y⟩ := if_pos rfl

/-- Where a point lies in the complex plane. -/
def position (p : Point Unrounded) : ℂ := ⟨p.x.value, p.y.value⟩

theorem position_injective : Function.Injective position := by
  intro p q same
  cases p
  cases q
  exact congrArg₂ Point.mk (Unrounded.ext (congrArg Complex.re same))
    (Unrounded.ext (congrArg Complex.im same))

end Point

theorem Line.exactLength_eq_dist (line : Line Unrounded) :
    line.exactLength.value = dist line.start.position line.finish.position := by
  rw [Complex.dist_eq_re_im]
  simp [Line.exactLength, Point.exactDistanceTo, Point.squaredDistanceTo, Scalar.square,
    Point.position, sq]

end RoadSketch
