import RoadSketch.Color.Levels
import RoadSketch.Number.Reading

/-!
# Colors as text

Colors are written as `#RRGGBB`, or as `#RRGGBBAA` if they are not fully opaque.
-/
namespace RoadSketch

inductive ColorTextError where
  | badForm (text : String)
  | badDigit
  deriving DecidableEq, Repr

def ColorTextError.message : ColorTextError → String
  | .badForm text => text ++ " isn't a #RRGGBB or #RRGGBBAA color"
  | .badDigit => "invalid digit found in string"

/-- The level that two characters stand for. -/
def hexLevel (high low : Char) : Except ColorTextError Nat :=
  match hexDigit? high, hexDigit? low with
  | some h, some l => .ok (16 * h + l)
  -- A plus sign may stand before a single digit.
  | none, some l => if high = '+' then .ok l else .error .badDigit
  | _, none => .error .badDigit

def hexDigits (width n : Nat) : List Char :=
  let digits := (Nat.toDigits 16 n).map Char.toUpper
  List.replicate (width - digits.length) '0' ++ digits

def levelDigits (level : Int) : List Char :=
  -- Negative levels are written as 32-bit words in two's complement.
  hexDigits 2 (level % (greatestWord - leastWord + 1)).toNat

namespace Color

def ofText (text : String) : Except ColorTextError Color := do
  let digits := match text.toList with
    | '#' :: rest => rest
    | rest => rest
  if !digits.all (fun c => c.toNat < 128) then throw (.badForm text)
  match digits with
  | [r₁, r₂, g₁, g₂, b₁, b₂] =>
    return opaqueOfLevels (← hexLevel r₁ r₂) (← hexLevel g₁ g₂) (← hexLevel b₁ b₂)
  | [r₁, r₂, g₁, g₂, b₁, b₂, a₁, a₂] =>
    return ofLevels (← hexLevel r₁ r₂) (← hexLevel g₁ g₂) (← hexLevel b₁ b₂)
      (channel (← hexLevel a₁ a₂))
  | _ => throw (.badForm text)

def alphaDigits (alpha : Float32) : List Char :=
  -- Full opacity is left out.
  if alpha < 1 then hexDigits 2 ((BinaryValue.ofSingle (alpha * 255)).roundInto 0 255).toNat else []

def toText (color : Color) : String :=
  String.ofList ('#' :: color.levels.toList.flatMap levelDigits ++ alphaDigits color.alpha)

end Color

end RoadSketch
