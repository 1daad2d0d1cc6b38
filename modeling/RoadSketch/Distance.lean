import RoadSketch.Fault
import RoadSketch.Scalar

/-!
# Distances

A distance in meters, which may be negative. Results of arithmetic are kept in the stored precision
and are faults when they are not finite.
-/
namespace RoadSketch

structure Distance (α : Type) where
  meters : α
  deriving Repr

namespace Distance

variable {α : Type} [Scalar α]

instance : BEq (Distance α) := ⟨fun a b => a.meters == b.meters⟩

instance : LT (Distance α) := ⟨fun a b => a.meters < b.meters⟩

instance : LE (Distance α) := ⟨fun a b => a.meters ≤ b.meters⟩

instance : DecidableLT (Distance α) := fun a b => inferInstanceAs (Decidable (a.meters < b.meters))

instance : DecidableLE (Distance α) := fun a b => inferInstanceAs (Decidable (a.meters ≤ b.meters))

def zero : Distance α := ⟨0⟩

/-- About the width of a pencil line: points this close together count as one. -/
def tolerance : Distance α := ⟨1 / 10000⟩

/-- Positions closer than this along a lane count as one. -/
def positionStep : Distance α := ⟨1 / 10⟩

def ofMeters (meters : α) : Checked α (Distance α) :=
  if Scalar.isFinite meters then .ok ⟨Scalar.trim meters⟩ else .error (.badDistance meters)

def add (a b : Distance α) : Checked α (Distance α) := ofMeters (a.meters + b.meters)

def sub (a b : Distance α) : Checked α (Distance α) := ofMeters (a.meters - b.meters)

def neg (a : Distance α) : Checked α (Distance α) := ofMeters (-a.meters)

def scale (a : Distance α) (factor : α) : Checked α (Distance α) := ofMeters (a.meters * factor)

def ratio (a b : Distance α) : Checked α α :=
  if b == zero then .error (.emptyDivisor a.meters b.meters) else .ok (a.meters / b.meters)

def divide (a : Distance α) (divisor : α) : Checked α (Distance α) :=
  if divisor == 0 then .error (.zeroDivisor a.meters divisor) else ofMeters (a.meters / divisor)

/-- The share of `whole` that `part` makes up. -/
def share (part whole : Distance α) : α :=
  -- Of nothing at all there is no share.
  if whole == zero then 0 else part.meters / whole.meters

def clamp (a low high : Distance α) : Distance α :=
  if a < low then low else if high < a then high else a

/-- Distances from the least to the greatest; equal ones keep their order. -/
def sorted (distances : List (Distance α)) : List (Distance α) :=
  distances.mergeSort fun a b => decide (a ≤ b)

end Distance

instance {α : Type} [Scalar α] : Ord (Distance α) where
  compare a b := if a < b then .lt else if b < a then .gt else .eq

end RoadSketch
