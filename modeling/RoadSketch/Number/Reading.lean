import RoadSketch.Number.Binary

/-!
# Reading numbers

Numbers as people type them: a sign, digits with a point somewhere, an exponent, or the name of
what is not finite.
-/
namespace RoadSketch

def digitValue (c : Char) : Nat := c.toNat - '0'.toNat

def hexDigit? (c : Char) : Option Nat :=
  if '0' ≤ c ∧ c ≤ '9' then some (c.toNat - '0'.toNat)
  else if 'a' ≤ c ∧ c ≤ 'f' then some (c.toNat - 'a'.toNat + 10)
  else if 'A' ≤ c ∧ c ≤ 'F' then some (c.toNat - 'A'.toNat + 10)
  else none

/-- The number that a run of digits stands for, after `start`. -/
def natOfDigits (start : Nat) (digits : List Char) : Nat :=
  digits.foldl (fun n c => 10 * n + digitValue c) start

def spanDigits (text : List Char) : List Char × List Char := text.span Char.isDigit

/-- The double nearest to `digits * 10 ^ exponent`. -/
def nearestDouble (digits : Nat) (exponent : Int) : Float :=
  if digits = 0 then 0
  else
    -- Exponents out of the reach of all doubles are settled without computing the power.
    let leading : Int := (digits.log2 : Int) * 30103 / 100000 + exponent
    if 400 < leading then 1.0 / 0.0
    else if leading < -400 then 0
    else Float.ofScientific digits (exponent < 0) exponent.natAbs

def spanSign : List Char → Bool × List Char
  | '-' :: rest => (true, rest)
  | '+' :: rest => (false, rest)
  | rest => (false, rest)

/-- An exponent that may be missing: a letter, a sign that may be missing, and digits to the end. -/
def readExponent? : List Char → Option Int
  | [] => some 0
  | mark :: rest =>
    if mark = 'e' ∨ mark = 'E' then
      let (negative, digits) := spanSign rest
      if digits ≠ [] ∧ digits.all Char.isDigit then
        let magnitude : Int := natOfDigits 0 digits
        some (if negative then -magnitude else magnitude)
      else none
    else none

def readMagnitude? (text : List Char) : Option Float :=
  let lower := text.map Char.toLower
  if lower = "inf".toList ∨ lower = "infinity".toList then some (1.0 / 0.0)
  else if lower = "nan".toList then some (0.0 / 0.0)
  else
    -- A point may stand anywhere among the digits, of which there is at least one.
    let (whole, afterWhole) := spanDigits text
    let (fraction, rest) := match afterWhole with
      | '.' :: afterPoint => spanDigits afterPoint
      | _ => ([], afterWhole)
    if whole = [] ∧ fraction = [] then none
    else do
      let exponent ← readExponent? rest
      some (nearestDouble (natOfDigits (natOfDigits 0 whole) fraction) (exponent - fraction.length))

def readDouble? (text : String) : Option Float :=
  let (negative, magnitude) := spanSign text.toList
  (readMagnitude? magnitude).map fun x => if negative then -x else x

/-- Reads a typed count: digits, after a plus sign that may be missing, within 64 bits. -/
def readCount? (text : String) : Option Nat :=
  let digits := match text.toList with
    | '+' :: rest => rest
    | rest => rest
  if digits ≠ [] ∧ digits.all Char.isDigit then
    let count := natOfDigits 0 digits
    if count < indexCount then some count else none
  else none

end RoadSketch
