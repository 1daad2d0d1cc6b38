import RoadSketch.Proofs.Double

/-!
# Sums of doubles without a sign

Adding nothing changes no double but the negative zero, and a finite double less itself is nothing.
Squares, and what is added up from them or drawn from them as a root, have no sign, so adding
nothing never changes a length.
-/
namespace RoadSketch.Double

open Float.Model (Format UnpackedFloat)
open Float.Model.UnpackedFloat

/-- Has no sign, or is not a number. -/
def IsUnsigned : UnpackedFloat → Prop
  | .notANumber => True
  | .infinity sign => sign = .positive
  | .zero sign => sign = .positive
  | .finite sign _ _ _ => sign = .positive

/-! ### Rounding keeps the sign -/

theorem isUnsigned_roundWithAccuracy (mantissa : Nat) (exponent : Int) (accuracy : Accuracy) :
    IsUnsigned (roundWithAccuracy .binary64 .positive mantissa exponent accuracy) := by
  simp only [roundWithAccuracy]
  split <;> exact rfl

theorem isUnsigned_normalize {mantissa : Int} (nonneg : 0 ≤ mantissa) (exponent : Int) :
    IsUnsigned (UnpackedFloat.normalize .binary64 mantissa exponent .positive) := by
  unfold UnpackedFloat.normalize
  split
  next below =>
    rw [compare_lt_iff_lt] at below
    omega
  · exact rfl
  · exact isUnsigned_roundWithAccuracy _ _ _

theorem IsUnsigned.unpackSign_pack {u : UnpackedFloat} (unsigned : IsUnsigned u) :
    unpackSign (pack .binary64 u) = 0#1 := by
  cases u with
  | notANumber => rfl
  | infinity sign =>
    cases unsigned
    rfl
  | zero sign =>
    cases unsigned
    rfl
  | finite sign mantissa exponent positive =>
    cases unsigned
    simp only [pack]
    split
    · rfl
    · split <;> exact unpackSign_packComponents .positive _ _

theorem isUnsigned_unpack {bits : BitVec Format.binary64.numBits}
    (unsigned : unpackSign bits = 0#1) : IsUnsigned (unpack .binary64 bits) := by
  simp only [unpack, unsigned]
  split
  · split
    · exact rfl
    · trivial
  · split
    · split <;> exact rfl
    · exact rfl

/-- Storing a result keeps it without a sign. -/
theorem IsUnsigned.unpack_pack {u : UnpackedFloat} (unsigned : IsUnsigned u) :
    IsUnsigned (unpack .binary64 (pack .binary64 u)) :=
  isUnsigned_unpack unsigned.unpackSign_pack

/-! ### Operations on unpacked doubles -/

theorem IsUnsigned.add {u v : UnpackedFloat} (left : IsUnsigned u) (right : IsUnsigned v) :
    IsUnsigned (UnpackedFloat.add .binary64 u v) := by
  cases u with
  | notANumber => trivial
  | infinity sign =>
    cases left
    cases v with
    | infinity other =>
      cases right
      exact rfl
    | notANumber => trivial
    | zero other => exact rfl
    | finite => exact rfl
  | zero sign =>
    cases left
    cases v with
    | zero other =>
      cases right
      exact rfl
    | notANumber => trivial
    | infinity other => exact right
    | finite => exact right
  | finite sign mantissa exponent positive =>
    cases left
    cases v with
    | finite other mantissa' exponent' positive' =>
      cases right
      exact isUnsigned_normalize (by simp only [Sign.apply]; positivity) _
    | notANumber => trivial
    | infinity other => exact right
    | zero other => exact rfl

theorem isUnsigned_mul_self (u : UnpackedFloat) : IsUnsigned (UnpackedFloat.mul .binary64 u u) := by
  have square (sign : Sign) : sign * sign = .positive := by cases sign <;> rfl
  cases u with
  | notANumber => trivial
  | infinity sign => exact square sign
  | zero sign => exact square sign
  | finite sign mantissa exponent positive =>
    simp only [UnpackedFloat.mul, square]
    exact isUnsigned_roundWithAccuracy _ _ _

theorem IsUnsigned.sqrt {u : UnpackedFloat} (unsigned : IsUnsigned u) :
    IsUnsigned (UnpackedFloat.sqrt .binary64 u) := by
  cases u with
  | notANumber => trivial
  | infinity sign =>
    cases unsigned
    exact rfl
  | zero sign => exact unsigned
  | finite sign mantissa exponent positive =>
    cases unsigned
    exact isUnsigned_roundWithAccuracy _ _ _

theorem IsUnsigned.add_zero {u : UnpackedFloat} (unsigned : IsUnsigned u) :
    UnpackedFloat.add .binary64 u (.zero .positive) = u := by
  cases u with
  | zero sign =>
    cases unsigned
    rfl
  | notANumber => rfl
  | infinity sign => rfl
  | finite sign mantissa exponent positive => rfl

theorem sub_self_unpacked {u : UnpackedFloat} (finite : u.isFinite) :
    UnpackedFloat.sub .binary64 u u = .zero .positive := by
  cases u with
  | notANumber => cases finite
  | infinity sign => cases finite
  | zero sign => cases sign <;> rfl
  | finite sign mantissa exponent positive =>
    simp only [UnpackedFloat.sub, Int.sub_self, UnpackedFloat.normalize]
    rfl

/-! ### Doubles -/

/-- A double that has no sign, or is not a number. -/
def Unsigned (x : Float) : Prop := IsUnsigned x.toModel.unpack

theorem unsigned_zero : Unsigned 0 := rfl

theorem Unsigned.add {x y : Float} (left : Unsigned x) (right : Unsigned y) : Unsigned (x + y) :=
  (IsUnsigned.add left right).unpack_pack

theorem unsigned_mul_self (x : Float) : Unsigned (x * x) := (isUnsigned_mul_self _).unpack_pack

theorem Unsigned.sqrt {x : Float} (unsigned : Unsigned x) : Unsigned x.sqrt :=
  (IsUnsigned.sqrt unsigned).unpack_pack

theorem Unsigned.add_zero {x : Float} (unsigned : Unsigned x) : x + 0 = x := by
  have kept : UnpackedFloat.add .binary64 x.toModel.unpack (0 : Float).toModel.unpack =
      x.toModel.unpack := IsUnsigned.add_zero unsigned
  have packed := ofModel_pack_unpack x
  rw [← kept] at packed
  exact packed

theorem sub_self {x : Float} (finite : x.isFinite) : x - x = 0 :=
  congrArg (fun u => Float.ofModel (.pack u)) (sub_self_unpacked finite)

end RoadSketch.Double
