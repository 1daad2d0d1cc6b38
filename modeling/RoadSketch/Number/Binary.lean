import RoadSketch.Number.Power

/-!
# Binary floating point

What the bits of a floating-point number stand for, and the exact operations on them that need
integer arithmetic only: rounding to a whole number, truncation into a range, and remainders.
-/
namespace RoadSketch

/-- What a floating-point number stands for; a finite one is `±significand * 2 ^ exponent`. -/
inductive BinaryValue where
  | finite (negative : Bool) (significand : Nat) (exponent : Int)
  | infinite (negative : Bool)
  | notANumber
  deriving DecidableEq, Repr

structure BinaryFormat where
  fractionBits : Nat
  exponentBits : Nat
  deriving DecidableEq, Repr

namespace BinaryFormat

def single : BinaryFormat := ⟨23, 8⟩

def double : BinaryFormat := ⟨52, 11⟩

/-- The exponent of the unit in the last place of the smallest numbers. -/
def leastExponent (format : BinaryFormat) : Int :=
  2 - binaryPower (format.exponentBits - 1) - format.fractionBits

def decode (format : BinaryFormat) (bits : Nat) : BinaryValue :=
  let fraction := bits % binaryPower format.fractionBits
  let field := bits / binaryPower format.fractionBits % binaryPower format.exponentBits
  let negative := bits.testBit (format.fractionBits + format.exponentBits)
  if field = binaryPower format.exponentBits - 1 then
    if fraction = 0 then .infinite negative else .notANumber
  else if field = 0 then
    -- The smallest numbers have no leading bit.
    .finite negative fraction format.leastExponent
  else
    .finite negative (binaryPower format.fractionBits + fraction) (format.leastExponent + (field - 1))

end BinaryFormat

inductive Tie where
  | even
  | away
  deriving DecidableEq, Repr

def roundQuotient (tie : Tie) (num den : Nat) : Nat :=
  let quotient := num / den
  let twice := 2 * (num % den)
  if twice < den then quotient
  else if den < twice then quotient + 1
  else match tie with
    | .even => quotient + quotient % 2
    | .away => quotient + 1

def binaryFraction (significand : Nat) (exponent : Int) : Nat × Nat :=
  if 0 ≤ exponent then (significand * binaryPower exponent.toNat, 1)
  else (significand, binaryPower (-exponent).toNat)

namespace BinaryValue

def ofDouble (x : Float) : BinaryValue := BinaryFormat.double.decode x.toBits.toNat

def ofSingle (x : Float32) : BinaryValue := BinaryFormat.single.decode x.toBits.toNat

/-- The integer nearest to a value, halves going away from zero, moved into `[low, high]`. -/
def roundInto (low high : Int) : BinaryValue → Int
  | .finite negative significand exponent =>
    let (num, den) := binaryFraction significand exponent
    let magnitude : Int := roundQuotient .away num den
    max low (min high (if negative then -magnitude else magnitude))
  | .infinite negative => if negative then low else high
  | .notANumber => 0

/-- The greatest integer not above a value, moved into `[low, high]`. -/
def floorInto (low high : Int) : BinaryValue → Int
  | .finite negative significand exponent =>
    let (num, den) := binaryFraction significand exponent
    max low (min high ((if negative then -(num : Int) else num).fdiv den))
  | .infinite negative => if negative then low else high
  | .notANumber => 0

/-- The least integer not below a value, moved into `[low, high]`. -/
def ceilInto (low high : Int) : BinaryValue → Int
  | .finite negative significand exponent =>
    let (num, den) := binaryFraction significand exponent
    max low (min high (-((if negative then (num : Int) else -num).fdiv den)))
  | .infinite negative => if negative then low else high
  | .notANumber => 0

end BinaryValue

/-- The double `2 ^ exponent`, for exponents that doubles have. -/
def powerOfTwo (exponent : Int) : Float :=
  if exponent < -1022 then Float.ofBits ((1 : UInt64) <<< (exponent + 1074).toNat.toUInt64)
  else Float.ofBits ((exponent + 1023).toNat.toUInt64 <<< 52)

/-- The whole number nearest to a double, halves going away from zero. Zeros keep their sign. -/
def nearestWhole (x : Float) : Float :=
  match BinaryValue.ofDouble x with
  | .finite negative significand exponent =>
    if 0 ≤ exponent then x
    else
      let magnitude := Float.ofNat (roundQuotient .away significand (binaryPower (-exponent).toNat))
      if negative then -magnitude else magnitude
  | _ => x

/-- What is left of `x` after taking away `y` as often as it fits, with the sign of `x`. -/
def truncatedRemainder (x y : Float) : Float :=
  match BinaryValue.ofDouble x, BinaryValue.ofDouble y with
  | .finite negative m e, .finite _ n f =>
    if n = 0 then 0.0 / 0.0
    else
      let unit := min e f
      let rest := m * binaryPower (e - unit).toNat % (n * binaryPower (f - unit).toNat)
      -- Exact: the rest needs no more digits than the two numbers have.
      let magnitude := Float.ofNat rest * powerOfTwo unit
      if negative then -magnitude else magnitude
  | .finite .., .infinite _ => x
  | _, _ => 0.0 / 0.0

end RoadSketch
