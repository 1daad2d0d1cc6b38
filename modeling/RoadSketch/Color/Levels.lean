import RoadSketch.Color.Basic
import RoadSketch.Number.Binary

/-!
# Color levels

The channels of a color as integers, and colors made brighter or darker by some count of levels.
-/
namespace RoadSketch

structure Levels where
  red : Int
  green : Int
  blue : Int
  deriving DecidableEq, Repr

namespace Levels

def toList (levels : Levels) : List Int := [levels.red, levels.green, levels.blue]

def map (levels : Levels) (f : Int → Int) : Levels := ⟨f levels.red, f levels.green, f levels.blue⟩

end Levels

def word? (n : Int) : Option Int := if leastWord ≤ n ∧ n ≤ greatestWord then some n else none

/-- The level nearest to a channel. It lies in 0 to 255 if the channel lies in 0 to 1. -/
def channelLevel (channel : Float32) : Int :=
  (BinaryValue.ofSingle (channel * 255)).roundInto leastWord greatestWord

namespace Color

def levels (color : Color) : Levels :=
  ⟨channelLevel color.red, channelLevel color.green, channelLevel color.blue⟩

def ofByteLevels (levels : Levels) (alpha : Float32) : Color :=
  ofLevels levels.red.toNat levels.green.toNat levels.blue.toNat alpha

end Color

def wordSum? (terms : List Int) : Option Int := terms.foldlM (fun sum n => word? (sum + n)) 0

/-- One round of a change of brightness: the levels it leads to, by how much they changed in total,
and how many of them could not change in full. -/
def brightnessRound? (old : Levels) (change : Int) : Option (Levels × Int × Nat) := do
  let aims ← old.toList.mapM fun level => word? (level + change)
  let new := old.map fun level => max 0 (min 255 (level + change))
  let moves ← (new.toList.zip old.toList).mapM fun (after, before) => word? (after - before)
  let changed ← wordSum? moves
  let saturated := (new.toList.zip aims).countP fun (after, aim) => after ≠ aim
  some (new, changed, saturated)

/-- Spreads `3 * change` levels over the channels, in rounds of which no color needs more than five. -/
def spreadBrightness? : Nat → Levels → Int → Int → Option Levels
  | 0, _, _, _ => none
  | rounds + 1, old, change, channels => do
    let (new, changed, saturated) ← brightnessRound? old change
    let total ← word? (channels * change)
    if changed = total ∨ changed = 0 ∨ saturated = 3 then
      return new
    -- What saturated channels could not take goes to the others in the next round.
    let rest ← word? (total - changed)
    let remaining : Int := 3 - saturated
    spreadBrightness? rounds new (rest.tdiv remaining) remaining

/-- Brightens a color, or darkens it if `change` is negative, by some count of levels per channel.
Nothing if the calculation leaves the range of 32-bit integers. -/
def Color.brighten? (color : Color) (change : Int) : Option Color := do
  return ofByteLevels (← spreadBrightness? 16 color.levels change 3) color.alpha

end RoadSketch
