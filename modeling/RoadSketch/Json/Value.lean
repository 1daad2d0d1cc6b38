import RoadSketch.Number.Reading
import RoadSketch.Number.Text

/-!
# JSON values

Documents as trees. Numbers keep the digits they were written with, since what they stand for
depends on who asks: an index has to be exact, and a measure is a double.
-/
namespace RoadSketch

inductive Json where
  | null
  | bool (value : Bool)
  | number (numeral : Numeral)
  | string (text : String)
  /-- A text with half of a surrogate pair, which stands for no text at all. -/
  | brokenString
  | array (items : List Json)
  | object (fields : List (Option String × Json))
  deriving Repr

namespace Numeral

def isInteger (numeral : Numeral) : Bool := numeral.fraction.isNone && numeral.exponent.isNone

/-- The index that a numeral stands for: a plain integer within 64 bits. -/
def toIndex? (numeral : Numeral) : Option Nat :=
  let n := natOfDigits 0 numeral.whole
  if numeral.isInteger && !numeral.negative && decide (n < indexCount) then some n else none

/-- Collects digits as long as they fit into 64 bits. Returns them with the digits left over. -/
def significand : Nat → List Char → Nat × List Char
  | n, [] => (n, [])
  | n, c :: rest =>
    let next := 10 * n + digitValue c
    if next < indexCount then significand next rest else (n, c :: rest)

/-- `magnitude * 10 ^ exponent`, with one multiplication or a few divisions. Nothing if it is too
large for a double. -/
def scaleDecimal? (magnitude : Float) (exponent : Int) : Option Float :=
  if exponent < -308 then
    if magnitude == 0 then some magnitude
    else scaleDecimal? (magnitude / nearestDouble 1 308) (exponent + 308)
  else if exponent < 0 then some (magnitude / nearestDouble 1 (-exponent))
  else if exponent ≤ 308 then
    let scaled := magnitude * nearestDouble 1 exponent
    if scaled.isFinite then some scaled else none
  else if magnitude == 0 then some magnitude
  else none
termination_by (-exponent).toNat

/-- The value of an exponent, or nothing if it does not fit into 32 bits. -/
def exponentValue? : Option (Bool × List Char) → Option Int
  | none => some 0
  | some (negative, digits) =>
    let magnitude := natOfDigits 0 digits
    if (magnitude : Int) ≤ greatestWord then some (if negative then -magnitude else magnitude) else none

/-- The magnitude of a numeral that is no plain integer of 64 bits. Only the first digits count, as
many as fit into 64 bits; those of the whole part that do not still count for its size. -/
def magnitude? (numeral : Numeral) : Option Float :=
  let (leading, unread) := significand 0 numeral.whole
  let (digits, rest) := significand leading (numeral.fraction.getD [])
  let places : Int := (numeral.fraction.getD []).length - rest.length
  match exponentValue? numeral.exponent with
  | some exponent => scaleDecimal? (Float.ofNat digits) (unread.length - places + exponent)
  | none =>
    if digits = 0 ∨ numeral.exponent.any (·.1) then some 0 else none

/-- The double that a numeral stands for, if doubles reach that far. -/
def toDouble? (numeral : Numeral) : Option Float := do
  let n := natOfDigits 0 numeral.whole
  let magnitude ←
    if numeral.isInteger && decide (n < indexCount) then some (Float.ofNat n) else numeral.magnitude?
  some (if numeral.negative then -magnitude else magnitude)

end Numeral

end RoadSketch
