import RoadSketch.Number.Shortest

/-!
# Written numbers

The ways numbers are written: with a fixed count of decimal places, or with the shortest digits in
one of several layouts.
-/
namespace RoadSketch

/-- How the shortest digits of a number are laid out. -/
structure NumberLayout where
  /-- Which digits to take when two choices are equally near. -/
  tie : Tie
  /-- The powers of ten of the first digit that are written without an exponent; all, if none are
  given. -/
  positional : Option (Int × Int)
  wholeMark : Bool
  plusSign : Bool
  deriving DecidableEq, Repr

namespace NumberLayout

/-- Messages and displays: never an exponent, and no point in a whole number. -/
def plain : NumberLayout := ⟨.away, none, false, false⟩

/-- Listings of values: `1.0`, `0.0001`, `1e-5`, `1e16`. -/
def detailed : NumberLayout := ⟨.away, some (-4, 15), true, false⟩

/-- Stored documents: `1.0`, `0.00005`, `1e-7`, `1e+16`. -/
def stored : NumberLayout := ⟨.even, some (-5, 15), true, true⟩

end NumberLayout

def digitsOf (n : Nat) : List Char := Nat.toDigits 10 n

def zeros (count : Nat) : List Char := List.replicate count '0'

structure Numeral where
  negative : Bool
  whole : List Char
  fraction : Option (List Char)
  exponent : Option (Bool × List Char)
  deriving DecidableEq, Repr

namespace Numeral

def ofNat (n : Nat) : Numeral := ⟨false, digitsOf n, none, none⟩

/-- The numeral of `digits / 10 ^ places`, with at least one digit before the point. -/
def ofPlaces (negative : Bool) (digits places : Nat) : Numeral :=
  let digits := digitsOf digits
  let padded := zeros (places + 1 - digits.length) ++ digits
  let split := padded.length - places
  ⟨negative, padded.take split, if places = 0 then none else some (padded.drop split), none⟩

/-- The characters of a numeral; `plusSign` says whether positive exponents have a sign. -/
def toChars (plusSign : Bool) (numeral : Numeral) : List Char :=
  let sign := if numeral.negative then ['-'] else []
  let fraction := match numeral.fraction with
    | some digits => '.' :: digits
    | none => []
  let exponent := match numeral.exponent with
    | some (true, digits) => 'e' :: '-' :: digits
    | some (false, digits) => 'e' :: (if plusSign then '+' :: digits else digits)
    | none => []
  sign ++ numeral.whole ++ fraction ++ exponent

end Numeral

/-- Is a number whose first digit stands for `10 ^ leading` written without an exponent? -/
def NumberLayout.isPositional (layout : NumberLayout) (leading : Int) : Bool :=
  match layout.positional with
  | none => true
  | some (least, greatest) => least ≤ leading && leading ≤ greatest

/-- Lays out a decimal, whose digits do not end in a zero unless it is zero. -/
def NumberLayout.numeral (layout : NumberLayout) (negative : Bool) (decimal : Decimal) : Numeral :=
  let places := (digitsOf decimal.digits).length - 1
  let leading : Int := decimal.exponent + places
  if decimal.digits = 0 ∨ layout.isPositional leading then
    if 0 ≤ decimal.exponent then
      let whole := digitsOf decimal.digits ++ zeros decimal.exponent.toNat
      ⟨negative, whole, if layout.wholeMark then some ['0'] else none, none⟩
    else .ofPlaces negative decimal.digits (-decimal.exponent).toNat
  else
    { Numeral.ofPlaces negative decimal.digits places with
      exponent := some (leading < 0, digitsOf leading.natAbs) }

def NumberLayout.write (layout : NumberLayout) (format : BinaryFormat) : BinaryValue → String
  | .finite negative significand exponent =>
    let numeral := layout.numeral negative (shortestDecimal format layout.tie significand exponent)
    String.ofList (numeral.toChars layout.plusSign)
  | .infinite negative => if negative then "-inf" else "inf"
  | .notANumber => "NaN"

def NumberLayout.double (layout : NumberLayout) (x : Float) : String :=
  layout.write .double (.ofDouble x)

def NumberLayout.single (layout : NumberLayout) (x : Float32) : String :=
  layout.write .single (.ofSingle x)

/-- A value with a fixed count of decimal places, halves going to the even neighbour. -/
def BinaryValue.fixed (places : Nat) : BinaryValue → String
  | .finite negative significand exponent =>
    let (num, den) := binaryFraction significand exponent
    let scaled := roundQuotient .even (num * decimalPower places) den
    -- What is rounded to zero has no sign.
    String.ofList ((Numeral.ofPlaces (negative && scaled != 0) scaled places).toChars false)
  | .infinite negative => if negative then "-inf" else "inf"
  | .notANumber => "NaN"

end RoadSketch
