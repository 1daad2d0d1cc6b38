import RoadSketch.Document.Load
import RoadSketch.Proofs.DoubleTrimming
import RoadSketch.Proofs.Precision.Shapes

/-!
# Numbers in documents

A number that is written in a document is read as a finite double, or not at all. Nothing else is
known about it: coordinates that are loaded are not trimmed.
-/
namespace RoadSketch

namespace Double

open Float.Model (Format UnpackedFloat)
open Float.Model.UnpackedFloat
open FloatFormat (ofParts magnitude unpack_pack_zero)

variable {x y : Float} {sign : Sign} {mantissa : Nat} {exponent : Int}

theorem isFinite_of_unpack (small : exponent ≤ 971)
    (unpacked : x.toModel.unpack = settle (ofParts sign mantissa exponent)) : x.isFinite := by
  change UnpackedFloat.isFinite x.toModel.unpack
  rw [unpacked, settle_ofParts small]
  unfold ofParts
  split <;> rfl

/-- A finite double has parts that are small enough to be stored. -/
theorem exists_small_parts (finite : x.isFinite) :
    ∃ sign mantissa exponent, IsStored mantissa exponent ∧ exponent ≤ 971 ∧
      x.toModel.unpack = ofParts sign mantissa exponent := by
  obtain ⟨sign, mantissa, exponent, stored, unpacked⟩ := exists_parts finite
  by_cases zero : mantissa = 0
  · subst mantissa
    exact ⟨sign, 0, -1074, isStored_zero, by decide, unpacked⟩
  · refine ⟨sign, mantissa, exponent, stored, ?_, unpacked⟩
    -- Storing it once more changes nothing, and would make it infinite if it were too large.
    have kept : x.toModel.unpack = settle (ofParts sign mantissa exponent) := by
      rw [← unpack_pack_ofParts stored, ← unpacked]
      conv_lhs => rw [← ofModel_pack_unpack x]
      rfl
    by_contra large
    rw [unpacked, settle_ofParts_eq, dif_neg zero, if_pos (by omega), ofParts, dif_neg zero] at kept
    cases kept

theorem isFinite_neg (finite : x.isFinite) : (-x).isFinite := by
  obtain ⟨sign, mantissa, exponent, stored, small, unpacked⟩ := exists_small_parts finite
  exact isFinite_of_unpack small (unpack_neg stored unpacked)

/-! ### Whole numbers and powers of ten -/

/-- What is close to a number of half the range at most is within the range. -/
theorem isFinite_of_near {v : ℚ} (stored : IsStored mantissa exponent)
    (near : |magnitude mantissa exponent - v| ≤ 2 ^ exponent / 2) (small : v < 2 ^ (1023 : ℤ))
    (unpacked : x.toModel.unpack = settle (ofParts sign mantissa exponent)) : x.isFinite := by
  refine isFinite_of_unpack (unit_le_of_near stored near (by decide) (small.trans_le ?_)) unpacked
  rw [show (1023 : ℤ) = 51 + (971 + 1) by rfl, zpow_add₀ two_ne_zero]
  gcongr
  norm_num

theorem isFinite_ofNat {n : Nat} (below : n < 2 ^ 64) : (Float.ofNat n).isFinite := by
  by_cases short : n < 2 ^ 53
  · have unpacked := unpack_ofNat short
    change UnpackedFloat.isFinite (Float.ofNat n).toModel.unpack
    rw [unpacked]
    unfold whole ofParts
    split <;> rfl
  · obtain ⟨rounded, unit, stored, near, unpacked⟩ :=
      exists_unpack_ofScientific (show 0 < n by omega) (fun fast => short fast.1) (Nat.zero_le 2048)
    rw [pow_zero, mul_one] at near
    refine isFinite_of_near stored near ?_ unpacked
    calc (n : ℚ) < 2 ^ 64 := by exact_mod_cast below
      _ ≤ 2 ^ (1023 : ℤ) := by
        rw [← zpow_natCast]
        exact zpow_le_zpow_right₀ one_le_two (by decide)

/-- At least two, with all digits that a double has, or infinite. -/
def isLarge : UnpackedFloat → Bool
  | .finite .positive mantissa exponent _ => 2 ^ 52 ≤ mantissa && -51 ≤ exponent
  | .infinity .positive => true
  | _ => false

theorem isLarge_settle {v : ℚ} (stored : IsStored mantissa exponent)
    (near : |magnitude mantissa exponent - v| ≤ 2 ^ exponent / 2) (large : 10 ≤ v) :
    isLarge (settle (ofParts .positive mantissa exponent)) := by
  have unit : -51 ≤ exponent := by
    by_contra fine
    have small : magnitude mantissa exponent < 2 ^ (1 : ℤ) :=
      (magnitude_lt stored).trans_le (zpow_le_zpow_right₀ one_le_two (by omega))
    have half : (2 : ℚ) ^ exponent ≤ 2 ^ (1 : ℤ) := zpow_le_zpow_right₀ one_le_two (by omega)
    have close := (abs_le.mp near).1
    norm_num at small half
    linarith
  have digits : 2 ^ 52 ≤ mantissa := stored.leading.resolve_right (by omega)
  rw [settle_ofParts_eq, dif_neg (by omega)]
  split
  · rfl
  · exact Bool.and_eq_true_iff.mpr ⟨decide_eq_true digits, decide_eq_true unit⟩

/-- The powers of ten that exponents are taken apart into. -/
theorem isLarge_power {k : Nat} (positive : 0 < k) (small : k ≤ 308) :
    isLarge (nearestDouble 1 k).toModel.unpack := by
  have power : nearestDouble 1 k = Float.ofScientific 1 false k := by
    have leading : ((Nat.log2 1 : Nat) : Int) * 30103 / 100000 = 0 := by decide
    simp only [nearestDouble, leading, Nat.one_ne_zero, if_false]
    rw [if_neg (by omega), if_neg (by omega), decide_eq_false (by omega), Int.natAbs_natCast]
  rw [power]
  -- Small powers are looked up in a table.
  by_cases short : k ≤ 22
  · have table : ∀ k : Fin 23, 0 < k.val → isLarge (Float.ofScientific 1 false k).toModel.unpack := by
      decide +kernel
    exact table ⟨k, by omega⟩ positive
  · obtain ⟨rounded, unit, stored, near, unpacked⟩ :=
      exists_unpack_ofScientific Nat.one_pos (fun fast => short fast.2) (by omega)
    rw [unpacked]
    refine isLarge_settle stored near ?_
    have tens : (10 : ℚ) ≤ 10 ^ k := le_self_pow₀ (by norm_num) (by omega)
    simpa using tens

/-- What is divided by something large stays finite. -/
theorem isFinite_div (finite : x.isFinite) (large : isLarge y.toModel.unpack) :
    (x / y).isFinite := by
  obtain ⟨sign, mantissa, exponent, stored, small, left⟩ := exists_small_parts finite
  cases right : y.toModel.unpack with
  | notANumber => simp [right, isLarge] at large
  | zero other => simp [right, isLarge] at large
  | infinity other =>
    have quotient : (x / y).toModel.unpack = unpack .binary64 (pack .binary64
        (UnpackedFloat.div .binary64 x.toModel.unpack y.toModel.unpack)) := rfl
    have zero : UnpackedFloat.div .binary64 (ofParts sign mantissa exponent) (.infinity other) =
        .zero (sign / other) := by
      unfold ofParts
      split <;> rfl
    rw [left, right, zero, unpack_pack_zero] at quotient
    change UnpackedFloat.isFinite (x / y).toModel.unpack
    rw [quotient]
    rfl
  | finite other mantissa' exponent' positive =>
    cases other with
    | negative => simp [right, isLarge] at large
    | positive =>
      rw [right, isLarge, Bool.and_eq_true, decide_eq_true_eq, decide_eq_true_eq] at large
      obtain ⟨rounded, unit, stored', near, result⟩ := exists_unpack_div left right
      refine isFinite_of_near stored' near ?_ result
      have divisor : (2 : ℚ) ≤ magnitude mantissa' exponent' :=
        calc (2 : ℚ) = 2 ^ 52 * 2 ^ (-51 : ℤ) := by norm_num
          _ ≤ mantissa' * 2 ^ exponent' := by
            gcongr
            · exact_mod_cast large.1
            · exact one_le_two
            · exact large.2
      have dividend : magnitude mantissa exponent < 2 ^ (1024 : ℤ) :=
        (magnitude_lt stored).trans_le (zpow_le_zpow_right₀ one_le_two (by omega))
      rw [div_lt_iff₀ (by linarith)]
      calc magnitude mantissa exponent < 2 ^ (1023 : ℤ) * 2 := by
            rwa [← zpow_add_one₀ two_ne_zero]
        _ ≤ 2 ^ (1023 : ℤ) * magnitude mantissa' exponent' := by gcongr

end Double

/-! ### Numerals -/

namespace Numeral

open Double

theorem isFinite_scaleDecimal? {magnitude x : Float} {exponent : Int} (finite : magnitude.isFinite)
    (scaled : scaleDecimal? magnitude exponent = some x) : x.isFinite := by
  fun_induction scaleDecimal? magnitude exponent with
  | case1 magnitude exponent deep zero =>
    cases scaled
    exact finite
  -- Every round divides by the greatest power of ten, which keeps the magnitude finite.
  | case2 magnitude exponent deep some ih =>
    exact ih (isFinite_div finite (isLarge_power (k := 308) (by decide) le_rfl)) scaled
  | case3 magnitude exponent shallow negative =>
    cases scaled
    have power : -exponent = (exponent.natAbs : Int) := by omega
    rw [power]
    exact isFinite_div finite (isLarge_power (by omega) (by omega))
  | case4 magnitude exponent shallow positive small product kept =>
    rw [← Option.some.inj scaled]
    exact kept
  | case5 => cases scaled
  | case6 =>
    cases scaled
    exact finite
  | case7 => cases scaled

theorem significand_lt {n : Nat} (digits : List Char) (small : n < indexCount) :
    (significand n digits).1 < indexCount := by
  induction digits generalizing n with
  | nil => exact small
  | cons c rest ih =>
    simp only [significand]
    split
    next fits => exact ih fits
    · exact small

theorem isFinite_magnitude? {numeral : Numeral} {x : Float} (found : numeral.magnitude? = some x) :
    x.isFinite := by
  have whole := significand_lt numeral.whole (show 0 < indexCount by decide)
  have fraction := significand_lt (numeral.fraction.getD []) whole
  unfold magnitude? at found
  dsimp only at found
  split at found
  · exact isFinite_scaleDecimal? (isFinite_ofNat fraction) found
  · split at found
    · cases found
      rfl
    · cases found

/-- A numeral is read as a finite double, or not at all. -/
theorem isFinite_toDouble? {numeral : Numeral} {x : Float} (found : numeral.toDouble? = some x) :
    x.isFinite := by
  have signed {magnitude : Float} (finite : magnitude.isFinite)
      (result : some (if numeral.negative then -magnitude else magnitude) = some x) :
      x.isFinite := by
    cases result
    split
    · exact isFinite_neg finite
    · exact finite
  unfold toDouble? at found
  dsimp only at found
  split at found
  next plain =>
    exact signed (isFinite_ofNat (of_decide_eq_true (Bool.and_eq_true_iff.mp plain).2)) found
  · obtain ⟨magnitude, read, found⟩ := Option.bind_eq_some_iff.mp found
    exact signed (isFinite_magnitude? read) found

end Numeral

/-! ### Decoders -/

namespace Json

variable {β : Type} {post : β → Prop} {decode : Json → Option β}

/-- Everything that a decoder makes of documents has some property. -/
def Decodes (post : β → Prop) (decode : Json → Option β) : Prop :=
  ∀ value, ∀ b ∈ decode value, post b

theorem decodes_double? : Decodes (fun x : Float => x.isFinite) double? := by
  intro value x found
  cases value with
  | number numeral => exact numeral.isFinite_toDouble? found
  | _ => cases found

theorem Decodes.required (known : Decodes post decode) {value : Option Json} {b : β}
    (found : required decode value = some b) : post b := by
  obtain ⟨json, _, found⟩ := Option.bind_eq_some_iff.mp found
  exact known json b found

theorem Decodes.list? (known : Decodes post decode) :
    Decodes (fun items => ∀ b ∈ items, post b) (list? decode) := by
  intro value items found
  cases value with
  | array values =>
    change values.mapM decode = some items at found
    induction values generalizing items with
    | nil =>
      cases found
      simp
    | cons json rest ih =>
      simp only [List.mapM_cons, Option.bind_eq_bind, Option.bind_eq_some_iff, Option.pure_def,
        Option.some.injEq] at found
      obtain ⟨b, first, others, later, rfl⟩ := found
      exact List.forall_mem_cons.mpr ⟨known json b first, ih others later⟩
  | _ => cases found

end Json

variable {good : Float → Prop} (finite : ∀ x : Float, x.isFinite → good x)
include finite

theorem Point.decodes_ofJson? : Json.Decodes (Point.All good) Point.ofJson? := by
  intro value p found
  obtain ⟨fields, _, found⟩ := Option.bind_eq_some_iff.mp found
  split at found
  · obtain ⟨x, first, found⟩ := Option.bind_eq_some_iff.mp found
    obtain ⟨y, second, found⟩ := Option.bind_eq_some_iff.mp found
    cases found
    exact ⟨finite x (Json.decodes_double?.required first),
      finite y (Json.decodes_double?.required second)⟩
  · cases found

theorem Polyline.decodes_ofJson? : Json.Decodes (Polyline.All good) Polyline.ofJson? := by
  intro value shape found
  obtain ⟨fields, _, found⟩ := Option.bind_eq_some_iff.mp found
  split at found
  · obtain ⟨points, listed, found⟩ := Option.bind_eq_some_iff.mp found
    cases found
    exact (Point.decodes_ofJson? finite).list?.required listed
  · cases found

theorem Lane.decodes_ofJson? :
    Json.Decodes (fun lane => lane.shape.All good) Lane.ofJson? := by
  intro value lane found
  obtain ⟨fields, _, found⟩ := Option.bind_eq_some_iff.mp found
  split at found
  · obtain ⟨shape, drawn, found⟩ := Option.bind_eq_some_iff.mp found
    obtain ⟨width, _, found⟩ := Option.bind_eq_some_iff.mp found
    cases found
    exact (Polyline.decodes_ofJson? finite).required drawn
  · cases found

theorem Edge.decodes_ofJson? :
    Json.Decodes (fun edge => ∀ lane ∈ edge.lanes, lane.shape.All good) Edge.ofJson? := by
  intro value edge found
  obtain ⟨fields, _, found⟩ := Option.bind_eq_some_iff.mp found
  split at found
  · obtain ⟨id, _, found⟩ := Option.bind_eq_some_iff.mp found
    obtain ⟨source, _, found⟩ := Option.bind_eq_some_iff.mp found
    obtain ⟨target, _, found⟩ := Option.bind_eq_some_iff.mp found
    obtain ⟨lanes, listed, found⟩ := Option.bind_eq_some_iff.mp found
    obtain ⟨turnaround, _, found⟩ := Option.bind_eq_some_iff.mp found
    cases found
    exact (Lane.decodes_ofJson? finite).list?.required listed
  · cases found

theorem Junction.decodes_ofJson? :
    Json.Decodes (fun junction => junction.shape.All good) Junction.ofJson? := by
  intro value junction found
  obtain ⟨fields, _, found⟩ := Option.bind_eq_some_iff.mp found
  split at found
  · obtain ⟨id, _, found⟩ := Option.bind_eq_some_iff.mp found
    obtain ⟨shape, drawn, found⟩ := Option.bind_eq_some_iff.mp found
    cases found
    exact (Polyline.decodes_ofJson? finite).required drawn
  · cases found

theorem Network.decodes_ofJson? : Json.Decodes (Network.All good) Network.ofJson? := by
  intro value network found
  obtain ⟨fields, _, found⟩ := Option.bind_eq_some_iff.mp found
  split at found
  · obtain ⟨junctions, listed, found⟩ := Option.bind_eq_some_iff.mp found
    obtain ⟨edges, others, found⟩ := Option.bind_eq_some_iff.mp found
    cases found
    exact ⟨(Junction.decodes_ofJson? finite).list?.required listed,
      (Edge.decodes_ofJson? finite).list?.required others⟩
  · cases found

/-- A network that is loaded has finite coordinates. -/
theorem Network.all_load {file text : String} {network : Network Float}
    (loaded : load file text = .ok network) : network.All good := by
  obtain ⟨decoded, read, sound⟩ := Checked.bind_eq_ok.mp loaded
  have same : decoded = network := by
    split at sound
    · cases sound
    · cases sound
      rfl
  subst decoded
  unfold loadDocument at read
  split at read
  next value found =>
    cases read
    obtain ⟨json, _, found⟩ := Option.bind_eq_some_iff.mp found
    exact decodes_ofJson? finite json network found
  · cases read

end RoadSketch
