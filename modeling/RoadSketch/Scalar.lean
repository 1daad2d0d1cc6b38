/-!
# Scalars

The numbers that positions, distances and angles are made of. Every geometric definition is
written once over this interface, so the definition that runs on doubles is also the one that is
reasoned about over exact numbers.
-/
namespace RoadSketch

/-- A number system with an order, square roots and circular functions. Nothing is assumed of the
operations: on doubles they round, and a comparison with what is not a number is false. -/
class Scalar (α : Type) extends Add α, Sub α, Mul α, Div α, Neg α, LT α, LE α, BEq α where
  decLt : DecidableLT α
  decLe : DecidableLE α
  ofNat : Nat → α
  pi : α
  abs : α → α
  sqrt : α → α
  sin : α → α
  cos : α → α
  /-- The direction of `(x, y)` seen from the origin, given as `atan2 y x`, in `(-pi, pi]`. -/
  atan2 : α → α → α
  /-- The remainder in `[0, m)` of a division by `m`. -/
  modulo : α → α → α
  isFinite : α → Bool
  /-- The precision that stored coordinates and distances are kept in. -/
  trim : α → α
  floorInt : α → Int
  ceilNat : α → Nat

namespace Scalar

variable {α : Type} [Scalar α]

instance (priority := low) instDecidableLT : DecidableLT α := Scalar.decLt

instance (priority := low) instDecidableLE : DecidableLE α := Scalar.decLe

instance (priority := low) instOfNat (n : Nat) : OfNat α n := ⟨Scalar.ofNat n⟩

/-- Only what is not a number differs from itself. -/
def isNumber (x : α) : Bool := x == x

def greater (x y : α) : α :=
  -- What is not a number is passed over.
  if isNumber x then (if x < y then y else x) else y

def lesser (x y : α) : α :=
  if isNumber x then (if y < x then y else x) else y

def clamp (x low high : α) : α :=
  -- Both comparisons fail for what is not a number, which stays what it is.
  if x < low then low else if high < x then high else x

def square (x : α) : α := x * x

def radians (degrees : α) : α := degrees * (pi / 180)

def degrees (radians : α) : α := radians * (180 / pi)

end Scalar

end RoadSketch
