import RoadSketch.Number.Binary
import RoadSketch.Scalar

/-!
# Doubles as scalars

The number system that programs run on. Stored values are rounded to the nearest ten-thousandth,
halves going away from zero.
-/
namespace RoadSketch

/-- The remainder of `x` modulo `m`, moved up by `m` when it is negative. -/
def floatModulo (x m : Float) : Float :=
  let rest := truncatedRemainder x m
  if rest < 0 then rest + m.abs else rest

/-- The nearest multiple of a ten-thousandth, as far as a double can tell. -/
def trimFloat (x : Float) : Float := nearestWhole (x * 10000) / 10000

instance : Scalar Float where
  decLt := inferInstance
  decLe := inferInstance
  ofNat := Float.ofNat
  pi := 3.141592653589793
  abs := Float.abs
  sqrt := Float.sqrt
  sin := Float.sin
  cos := Float.cos
  atan2 := Float.atan2
  modulo := floatModulo
  isFinite := Float.isFinite
  trim := trimFloat
  floorInt x := (BinaryValue.ofDouble x).floorInto leastLongWord greatestLongWord
  ceilNat x := ((BinaryValue.ofDouble x).ceilInto 0 (indexCount - 1)).toNat

end RoadSketch
