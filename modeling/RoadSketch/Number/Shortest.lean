import RoadSketch.Number.Binary

/-!
# Shortest decimals

A floating-point number is written with the fewest decimal digits that still round back to it, and
with the nearest such digits when there is a choice. The grids of multiples of a power of ten are
tried from coarse to fine; on each only the two neighbours of the value can be the nearest hit.
-/
namespace RoadSketch

structure Decimal where
  digits : Nat
  exponent : Int
  deriving DecidableEq, Repr

/-- The numbers that round to one floating-point number: those between `low` and `high`, which are
taken over a common denominator. The ends belong to it if `closed`. -/
structure RoundingInterval where
  low : Nat
  value : Nat
  high : Nat
  denominator : Nat
  closed : Bool
  deriving DecidableEq, Repr

namespace RoundingInterval

/-- The interval of `significand * 2 ^ exponent`. -/
def ofBinary (format : BinaryFormat) (significand : Nat) (exponent : Int) : RoundingInterval :=
  -- Below a power of two the neighbour is only half as far away, except at the smallest exponent.
  let below :=
    if significand = binaryPower format.fractionBits ∧ format.leastExponent < exponent then 1 else 2
  let scale := binaryFraction 1 (exponent - 2)
  { low := (4 * significand - below) * scale.1
    value := 4 * significand * scale.1
    high := (4 * significand + 2) * scale.1
    denominator := scale.2
    closed := significand % 2 = 0 }

def contains (interval : RoundingInterval) (num : Nat) : Bool :=
  if interval.closed then interval.low ≤ num && num ≤ interval.high
  else interval.low < num && num < interval.high

def scaled (interval : RoundingInterval) (power : Nat) : RoundingInterval :=
  { interval with
    low := interval.low * decimalPower power
    value := interval.value * decimalPower power
    high := interval.high * decimalPower power }

/-- The multiple of `10 ^ exponent` that is in the interval and nearest to the value. -/
def nearestOnGrid (tie : Tie) (interval : RoundingInterval) (exponent : Int) : Option Nat :=
  let interval := interval.scaled (-exponent).toNat
  let unit := interval.denominator * decimalPower exponent.toNat
  let down := interval.value / unit
  let nearest := roundQuotient tie interval.value unit
  let other := if nearest = down then down + 1 else down
  if interval.contains (nearest * unit) then some nearest
  else if interval.contains (other * unit) then some other
  else none

/-- The first hit on the grids from `10 ^ exponent` down. -/
def shortestFrom (tie : Tie) (interval : RoundingInterval) : Nat → Int → Decimal
  | 0, exponent =>
    -- After the last grid, whatever is nearest has to do.
    let scaled := interval.scaled (-exponent).toNat
    ⟨roundQuotient tie scaled.value (scaled.denominator * decimalPower exponent.toNat), exponent⟩
  | grids + 1, exponent =>
    match interval.nearestOnGrid tie exponent with
    | some digits => ⟨digits, exponent⟩
    | none => interval.shortestFrom tie grids (exponent - 1)

/-- An exponent of ten that is not below that of the value, and at most two above it. -/
def topExponent (interval : RoundingInterval) : Int :=
  ((interval.value.log2 : Int) - interval.denominator.log2 + 1) * 30103 / 100000 + 1

end RoundingInterval

def Decimal.stripped (decimal : Decimal) : Decimal :=
  if h : decimal.digits ≠ 0 ∧ decimal.digits % 10 = 0 then
    Decimal.stripped ⟨decimal.digits / 10, decimal.exponent + 1⟩
  else decimal
termination_by decimal.digits
decreasing_by exact Nat.div_lt_self (by omega) (by omega)

def shortestDecimal (format : BinaryFormat) (tie : Tie) (significand : Nat) (exponent : Int) :
    Decimal :=
  if significand = 0 then ⟨0, 0⟩
  else
    let interval := RoundingInterval.ofBinary format significand exponent
    (interval.shortestFrom tie (format.fractionBits / 3 + 4) interval.topExponent).stripped

end RoadSketch
