import RoadSketch.Color.Levels
import RoadSketch.Proofs.FloatFormat

/-!
# Intensities and their levels

A channel stands for an intensity between none and full, and is written as the nearest level of 255.
Multiplying a channel by 255 rounds to what a single can store, but the product has at least sixteen
binary places then, so a level is off by hardly more than the half that its own rounding costs.

## Main results

- `channelLevel_isByte`: the level of an intensity between none and full lies in 0 to 255.
- `channelLevel_eq_full_iff`: from which intensity on that level is the full one.
- `channelLevel_channel`: every level from 0 to 255 is the one of its own intensity.
-/
namespace RoadSketch

open Float.Model (Format UnpackedFloat)
open Float.Model.UnpackedFloat
open FloatFormat

/-! ### Singles -/

theorem ofSingle_eq_reading (x : Float32) :
    BinaryValue.ofSingle x = reading .binary32 x.toModel.unpack :=
  @decode_eq_reading .binary32 x.toModel.toBits.toBitVec

theorem unpack_singleZero : (0 : Float32).toModel.unpack = .zero .positive := rfl

theorem unpack_singleOne :
    (1 : Float32).toModel.unpack = .finite .positive (2 ^ 23) (-23) (by decide) := rfl

theorem unpack_greatestLevel :
    (255 : Float32).toModel.unpack = .finite .positive (2 ^ 16 * 255) (-16) (by decide) := rfl

theorem unpack_scaled (x : Float32) :
    (x * 255).toModel.unpack = unpack .binary32 (pack .binary32
      (UnpackedFloat.mul .binary32 x.toModel.unpack (255 : Float32).toModel.unpack)) := rfl

theorem single_le_iff (x y : Float32) :
    x ≤ y ↔ UnpackedFloat.le x.toModel.unpack y.toModel.unpack = true := by
  change x.le y = true ↔ _
  rw [Float32.le, decide_eq_true_iff]
  rfl

theorem single_lt_iff (x y : Float32) :
    x < y ↔ UnpackedFloat.lt x.toModel.unpack y.toModel.unpack = true := by
  change x.lt y = true ↔ _
  rw [Float32.lt, decide_eq_true_iff]
  rfl

/-- The level of a channel depends on what is stored of it only. -/
theorem channelLevel_congr {x y : Float32} (same : x.toModel.unpack = y.toModel.unpack) :
    channelLevel x = channelLevel y := by
  rw [channelLevel, channelLevel, ofSingle_eq_reading, ofSingle_eq_reading, unpack_scaled,
    unpack_scaled, same]

theorem channelLevel_of_zero {x : Float32} {sign : Sign}
    (unpacked : x.toModel.unpack = .zero sign) : channelLevel x = 0 := by
  rw [channelLevel, ofSingle_eq_reading, unpack_scaled, unpacked]
  cases sign <;> rfl

/-! ### Intensities between none and full -/

/-- A mantissa and an exponent of a single of at most one. -/
def IsAtMostOne (mantissa : Nat) (exponent : Int) : Prop :=
  exponent < -23 ∨ exponent = -23 ∧ mantissa ≤ 2 ^ 23

/-- An intensity between none and full is zero, or has no sign and is at most one. -/
theorem unpack_of_le_one {x : Float32} (low : 0 ≤ x) (high : x ≤ 1) :
    (∃ sign, x.toModel.unpack = .zero sign) ∨ ∃ mantissa exponent positive,
      x.toModel.unpack = .finite .positive mantissa exponent positive ∧
        IsAtMostOne mantissa exponent := by
  rw [single_le_iff, unpack_singleZero] at low
  rw [single_le_iff, unpack_singleOne] at high
  cases unpacked : x.toModel.unpack with
  | notANumber =>
    rw [unpacked] at low
    cases low
  | infinity sign =>
    rw [unpacked] at low high
    cases sign with
    | positive => cases high
    | negative => cases low
  | zero sign => exact .inl ⟨sign, rfl⟩
  | finite sign mantissa exponent positive =>
    rw [unpacked] at low high
    cases sign with
    | negative => cases low
    | positive =>
      have ordered : ((compare exponent (-23)).then (compare mantissa (2 ^ 23))).isLE = true := high
      rw [Ordering.isLE_then_iff_or, compare_lt_iff_lt, compare_eq_iff_eq,
        Nat.isLE_compare] at ordered
      exact .inr ⟨mantissa, exponent, positive, rfl, ordered⟩

section
variable {x : Float32} {mantissa : Nat} {exponent : Int} {positive : 0 < mantissa}

theorem IsAtMostOne.magnitude_le (small : IsAtMostOne mantissa exponent)
    (stored : IsStored .binary32 mantissa exponent) : magnitude mantissa exponent ≤ 1 := by
  have below : mantissa < 2 ^ 24 := stored.below
  rcases small with less | ⟨rfl, most⟩
  · exact (magnitude_le_of_le below.le (show exponent ≤ -24 by omega)).trans (by norm_num)
  · exact (magnitude_le_of_le most le_rfl).trans (by norm_num)

/-- Stored numbers up to the greatest level have at least sixteen binary places. -/
theorem exponent_le_of_near (stored : IsStored .binary32 mantissa exponent)
    (near : magnitude mantissa exponent ≤ 255 + 2 ^ exponent / 2) : exponent ≤ -16 := by
  by_contra large
  have leading : 2 ^ 23 ≤ mantissa := stored.leading.resolve_right fun least => by
    have : Format.binary32.minExponent = -149 := by decide
    omega
  have size : (2 : ℚ) ^ (-15 : Int) ≤ 2 ^ exponent := zpow_le_zpow_right₀ one_le_two (by omega)
  have count : (2 : ℚ) ^ 23 ≤ mantissa := by exact_mod_cast leading
  rw [magnitude] at near
  norm_num at size
  nlinarith

/-- The product that a level is rounded from. -/
theorem exists_product (unpacked : x.toModel.unpack = .finite .positive mantissa exponent positive)
    (small : IsAtMostOne mantissa exponent) :
    ∃ rounded places : Nat, 16 ≤ places ∧
      |(rounded : ℚ) / 2 ^ places - magnitude mantissa exponent * 255| ≤ 1 / 2 ^ places / 2 ∧
      BinaryValue.ofSingle (x * 255) = .finite false rounded (-places) := by
  have most := small.magnitude_le (isStored_of_unpack unpacked)
  have digits : HasDigits .binary32 (mantissa * (2 ^ 16 * 255)) (exponent + -16) := by
    have long := (Nat.le_log2 (by omega)).mpr (show 2 ^ 23 ≤ mantissa * (2 ^ 16 * 255) by omega)
    change _ ≤ max (_ - (23 : Int)) (-149)
    omega
  obtain ⟨rounded, unit, kept, near, made⟩ :=
    exists_pack_mul .positive .positive (by decide) digits
  have taken : ofParts .positive mantissa exponent =
      .finite .positive mantissa exponent positive := dif_neg positive.ne'
  have full : magnitude (2 ^ 16 * 255) (-16) = 255 := by norm_num [magnitude]
  rw [taken, ← unpack_greatestLevel, ← unpacked, ← unpack_scaled] at made
  rw [full] at near
  have fine : unit ≤ -16 := exponent_le_of_near kept (by have := (abs_le.mp near).2; linarith)
  obtain ⟨places, rfl⟩ : ∃ places : Nat, unit = -places := ⟨(-unit).toNat, by omega⟩
  refine ⟨rounded, places, by omega, ?_, ?_⟩
  · simpa [magnitude, zpow_neg, zpow_natCast, div_eq_mul_inv] using near
  · rw [ofSingle_eq_reading, made, settle_ofParts (fine.trans (by decide))]
    exact reading_ofParts kept

/-- A product near a number up to the greatest level is not above that level itself. -/
theorem le_greatestLevel_of_near {rounded places : Nat} {w : ℚ} (most : w ≤ 1)
    (near : |(rounded : ℚ) / 2 ^ places - w * 255| ≤ 1 / 2 ^ places / 2) :
    rounded ≤ 255 * 2 ^ places := by
  have size : (0 : ℚ) < 2 ^ places := by positivity
  have scaled : (rounded : ℚ) ≤ 255 * 2 ^ places + 1 / 2 := by
    have bound : (rounded : ℚ) / 2 ^ places ≤ 255 + 1 / 2 ^ places / 2 := by
      have := (abs_le.mp near).2
      linarith
    field_simp at bound
    linarith
  by_contra more
  have beyond : ((255 * 2 ^ places + 1 : Nat) : ℚ) ≤ rounded := by
    exact_mod_cast Nat.lt_of_not_le more
  push_cast at beyond
  linarith

/-- The level that a product is rounded to. -/
theorem exists_level {rounded places : Nat}
    (product : BinaryValue.ofSingle (x * 255) = .finite false rounded (-places))
    (few : rounded ≤ 255 * 2 ^ places) :
    ∃ level : Nat, level ≤ 255 ∧ channelLevel x = level ∧
      (level = 255 ↔ 254 + 1 / 2 ≤ (rounded : ℚ) / 2 ^ places) := by
  have size := Nat.two_pow_pos places
  have fraction : binaryFraction rounded (-places) = (rounded, 2 ^ places) := by
    unfold binaryFraction
    split
    next none =>
      obtain rfl : places = 0 := by omega
      simp [binaryPower]
    · simp [binaryPower]
  obtain ⟨level, named⟩ : ∃ level, level = (2 * rounded + 2 ^ places) / (2 * 2 ^ places) := ⟨_, rfl⟩
  have most : level ≤ 255 := by
    rw [named, ← Nat.lt_succ_iff, Nat.div_lt_iff_lt_mul (by omega)]
    omega
  refine ⟨level, most, ?_, ?_⟩
  · rw [channelLevel, product]
    simp only [BinaryValue.roundInto, fraction, roundQuotient_away _ size, ← named, leastWord,
      greatestWord, Bool.false_eq_true, if_false]
    omega
  · have half : (254 + 1 / 2 : ℚ) ≤ rounded / 2 ^ places ↔ 509 * 2 ^ places ≤ 2 * rounded := by
      rw [le_div_iff₀ (by positivity), ← Nat.cast_le (α := ℚ)]
      push_cast
      constructor <;> intro above <;> linarith
    have greatest : level = 255 ↔ 255 ≤ level := by omega
    rw [half, greatest, named, Nat.le_div_iff_mul_le (by omega)]
    omega

end

/-! ### Levels -/

/-- An integer from 0 to 255. -/
def IsByte (level : Int) : Prop := 0 ≤ level ∧ level ≤ 255

instance (level : Int) : Decidable (IsByte level) := inferInstanceAs (Decidable (_ ∧ _))

theorem channelLevel_isByte {x : Float32} (low : 0 ≤ x) (high : x ≤ 1) :
    IsByte (channelLevel x) := by
  unfold IsByte
  rcases unpack_of_le_one low high with
    ⟨sign, unpacked⟩ | ⟨mantissa, exponent, positive, unpacked, small⟩
  · simp [channelLevel_of_zero unpacked]
  · obtain ⟨rounded, places, -, near, product⟩ := exists_product unpacked small
    have most := small.magnitude_le (isStored_of_unpack unpacked)
    obtain ⟨level, bound, same, -⟩ := exists_level product (le_greatestLevel_of_near most near)
    omega

/-- The least intensity whose level is the full one. -/
def leastFull : Float32 := 0.9980392

theorem unpack_leastFull :
    leastFull.toModel.unpack = .finite .positive 16744319 (-24) (by decide) := rfl

theorem channelLevel_leastFull : channelLevel leastFull = 255 := by decide +kernel

theorem channelLevel_eq_full_iff {x : Float32} (low : 0 ≤ x) (high : x ≤ 1) :
    channelLevel x = 255 ↔ leastFull ≤ x := by
  rw [single_le_iff, unpack_leastFull]
  rcases unpack_of_le_one low high with
    ⟨sign, unpacked⟩ | ⟨mantissa, exponent, positive, unpacked, small⟩
  · rw [channelLevel_of_zero unpacked, unpacked]
    cases sign <;> decide
  have stored := isStored_of_unpack unpacked
  have below : mantissa < 2 ^ 24 := stored.below
  have ordered : UnpackedFloat.le (.finite .positive 16744319 (-24) (by decide)) x.toModel.unpack =
      ((compare (-24) exponent).then (compare 16744319 mantissa)).isLE := by
    rw [unpacked]
    rfl
  rw [ordered, Ordering.isLE_then_iff_or, compare_lt_iff_lt, compare_eq_iff_eq, Nat.isLE_compare]
  -- The error of the product is too large to tell the least full intensity from the one before it.
  by_cases least : exponent = -24 ∧ mantissa = 16744319
  · obtain ⟨rfl, rfl⟩ := least
    have same : channelLevel x = 255 := (channelLevel_congr unpacked).trans channelLevel_leastFull
    simp [same]
  obtain ⟨rounded, places, fine, near, product⟩ := exists_product unpacked small
  obtain ⟨level, -, same, full⟩ :=
    exists_level product (le_greatestLevel_of_near (small.magnitude_le stored) near)
  have unit : (1 : ℚ) / 2 ^ places ≤ 1 / 65536 :=
    (one_div_pow_le_one_div_pow_of_le one_le_two fine).trans (by norm_num)
  obtain ⟨lower, upper⟩ := abs_le.mp near
  have cast : (level : Int) = 255 ↔ level = 255 := by omega
  rw [same, cast, full]
  constructor
  · intro above
    by_contra less
    have smaller : magnitude mantissa exponent ≤ 16744318 * 2 ^ (-24 : Int) := by
      rcases (show exponent ≤ -25 ∨ exponent = -24 ∧ mantissa ≤ 16744318 by omega) with
        half | ⟨rfl, fewer⟩
      · exact (magnitude_le_of_le below.le half).trans (by norm_num)
      · exact magnitude_le_of_le fewer le_rfl
    norm_num at smaller
    linarith
  · intro above
    have larger : 16744320 * 2 ^ (-24 : Int) ≤ magnitude mantissa exponent := by
      rcases (show exponent = -23 ∨ exponent = -24 ∧ 16744320 ≤ mantissa by
        unfold IsAtMostOne at small; omega) with rfl | ⟨rfl, more⟩
      · have leading : 2 ^ 23 ≤ mantissa := stored.leading.resolve_right (by decide)
        exact le_trans (by norm_num) (le_magnitude_of_le leading le_rfl)
      · exact le_magnitude_of_le more le_rfl
    norm_num at larger
    linarith

theorem channelLevel_of_not_lt {x : Float32} (low : 0 ≤ x) (high : x ≤ 1) (above : ¬x < 1) :
    channelLevel x = 255 := by
  rw [channelLevel_eq_full_iff low high, single_le_iff, unpack_leastFull]
  rw [single_lt_iff, unpack_singleOne] at above
  rcases unpack_of_le_one low high with
    ⟨sign, unpacked⟩ | ⟨mantissa, exponent, positive, unpacked, small⟩
  · rw [unpacked] at above
    cases sign <;> exact absurd rfl above
  · rw [unpacked] at above ⊢
    have full : ¬(some ((compare exponent (-23)).then (compare mantissa (2 ^ 23))) ==
      some Ordering.lt) = true := above
    rw [beq_iff_eq, Option.some.injEq, Ordering.then_eq_lt, compare_lt_iff_lt, compare_eq_iff_eq,
      compare_lt_iff_lt] at full
    obtain ⟨rfl, rfl⟩ : exponent = -23 ∧ mantissa = 2 ^ 23 := by
      unfold IsAtMostOne at small
      omega
    rfl

/-- Levels survive being stored as channels, and only the full one makes a full channel. -/
theorem channel_table : ∀ level < 256,
    channelLevel (Color.channel level) = level ∧ (Color.channel level < 1 ↔ level < 255) := by
  decide +kernel

theorem channelLevel_channel {level : Nat} (byte : level ≤ 255) :
    channelLevel (Color.channel level) = level := (channel_table level (by omega)).1

theorem channel_lt_one_iff {level : Nat} (byte : level ≤ 255) :
    Color.channel level < 1 ↔ level < 255 := (channel_table level (by omega)).2

namespace Levels

structure AreBytes (levels : Levels) : Prop where
  red : IsByte levels.red
  green : IsByte levels.green
  blue : IsByte levels.blue

theorem AreBytes.of_mem {levels : Levels} (bytes : levels.AreBytes) {level : Int}
    (channel : level ∈ levels.toList) : IsByte level := by
  simp only [toList, List.mem_cons, List.not_mem_nil, or_false] at channel
  obtain rfl | rfl | rfl := channel
  exacts [bytes.red, bytes.green, bytes.blue]

end Levels

namespace Color

theorem levels_ofByteLevels {levels : Levels} (bytes : levels.AreBytes) (alpha : Float32) :
    (ofByteLevels levels alpha).levels = levels := by
  have kept {level : Int} (byte : IsByte level) : channelLevel (channel level.toNat) = level := by
    obtain ⟨low, high⟩ := byte
    rw [channelLevel_channel (by omega), Int.toNat_of_nonneg low]
  simp only [ofByteLevels, ofLevels, Color.levels, kept bytes.red, kept bytes.green,
    kept bytes.blue]

end Color

end RoadSketch
