/-!
# Powers and word sizes

The powers that number formats are made of, and the ranges of machine words.
-/
namespace RoadSketch

def binaryPower (n : Nat) : Nat := Nat.pow 2 n

def decimalPower (n : Nat) : Nat := Nat.pow 10 n

theorem binaryPower_succ (n : Nat) : binaryPower (n + 1) = 2 * binaryPower n := by
  exact Nat.mul_comm (binaryPower n) 2

theorem decimalPower_succ (n : Nat) : decimalPower (n + 1) = 10 * decimalPower n := by
  exact Nat.mul_comm (decimalPower n) 10

/-- The least and the greatest integer that fit into 32 bits. -/
def leastWord : Int := -2147483648

def greatestWord : Int := 2147483647

/-- The least and the greatest integer that fit into 64 bits. -/
def leastLongWord : Int := -9223372036854775808

def greatestLongWord : Int := 9223372036854775807

def indexCount : Nat := 18446744073709551616

end RoadSketch
