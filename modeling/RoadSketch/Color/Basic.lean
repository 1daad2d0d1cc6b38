/-!
# Colors

A color with single-precision channels, of which one stands for full intensity.
-/
namespace RoadSketch

structure Color where
  red : Float32
  green : Float32
  blue : Float32
  alpha : Float32
  deriving Repr

namespace Color

instance : BEq Color :=
  ⟨fun a b => a.red == b.red && a.green == b.green && a.blue == b.blue && a.alpha == b.alpha⟩

/-- A channel with one of the intensities 0 to 255. -/
def channel (level : Nat) : Float32 := Float32.ofNat level / 255

def ofLevels (red green blue : Nat) (alpha : Float32) : Color :=
  ⟨channel red, channel green, channel blue, alpha⟩

def opaqueOfLevels (red green blue : Nat) : Color := ofLevels red green blue 1

def withAlpha (color : Color) (alpha : Float32) : Color := { color with alpha := alpha }

def black : Color := ⟨0, 0, 0, 1⟩

def white : Color := ⟨1, 1, 1, 1⟩

def pureRed : Color := ⟨1, 0, 0, 1⟩

def pureGreen : Color := ⟨0, 1, 0, 1⟩

def pureBlue : Color := ⟨0, 0, 1, 1⟩

def cyan : Color := ⟨0, 1, 1, 1⟩

def magenta : Color := ⟨1, 0, 1, 1⟩

def yellow : Color := ⟨1, 1, 0, 1⟩

def orange : Color := ⟨1, 0.55, 0, 1⟩

end Color

end RoadSketch
