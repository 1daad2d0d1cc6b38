import RoadSketch.Proofs.Color.Intensity
import RoadSketch.Proofs.Color.Text

/-!
# Writing colors

A color is written as three pairs of capital hexadecimal digits, and a fourth pair if its alpha is
below one. What is read are levels of 255, so a color that was read keeps its text. Any other color
keeps its text from the second writing on: the first one may end in a full alpha.

## Main results

- `Color.ofText_toText`: a color that was read is written as a text that is read as that color.
- `Color.toText_kept_iff`: which colors are written in the same way before and after they are read.
-/
namespace RoadSketch

/-! ### Pairs of digits -/

/-- The capital that is written for a digit. -/
def capital (digit : Nat) : Char := digit.digitChar.toUpper

theorem capital_table : ∀ digit < 16,
    capital digit ∈ hexCapitals ∧ hexCapitals[digit]? = some (capital digit).toUpper := by
  decide

theorem capital_isHexDigit {digit : Nat} (small : digit < 16) : IsHexDigit (capital digit) digit :=
  (capital_table digit small).2

/-- A level is written as two capitals, the first of which may be a zero. -/
theorem hexDigits_byte {level : Nat} (byte : level ≤ 255) :
    hexDigits 2 level = [capital (level / 16), capital (level % 16)] := by
  unfold hexDigits
  -- A single digit gets a zero before it.
  by_cases single : level < 16
  · rw [Nat.toDigits_of_lt_base single, Nat.div_eq_of_lt single, Nat.mod_eq_of_lt single]
    rfl
  · rw [Nat.toDigits_of_base_le (by omega) (by omega), Nat.toDigits_of_lt_base (by omega)]
    rfl

theorem levelDigits_byte {level : Nat} (byte : level ≤ 255) :
    levelDigits level = hexDigits 2 level := by
  -- Only negative levels are changed by two's complement.
  have range : greatestWord - leastWord + 1 = 4294967296 := rfl
  have kept : ((level : Int) % (greatestWord - leastWord + 1)).toNat = level := by
    rw [range]
    omega
  rw [levelDigits, kept]

theorem Pairs.cons_level {level : Nat} (byte : level ≤ 255) {text : List Char} {levels : List Nat}
    (others : Pairs text levels) : Pairs (hexDigits 2 level ++ text) (level :: levels) := by
  rw [hexDigits_byte byte]
  exact .cons ⟨level / 16, level % 16, .inl (capital_isHexDigit (by omega)),
    capital_isHexDigit (by omega), by omega⟩ others

theorem Pairs.level_le {text : List Char} {levels : List Nat} (pairs : Pairs text levels) :
    ∀ level ∈ levels, level ≤ 255 := by
  induction pairs with
  | nil => simp
  | cons first others ih =>
    obtain ⟨h, l, high, low, rfl⟩ := first
    have small : h < 16 := high.elim IsHexDigit.lt fun plus => by omega
    have := low.lt
    exact List.forall_mem_cons.mpr ⟨by omega, ih⟩

namespace Color

/-! ### What is written -/

/-- The digits of a color with some levels. The greatest level of the alpha is left out. -/
def levelText (red green blue alpha : Nat) : List Char :=
  hexDigits 2 red ++ (hexDigits 2 green ++ (hexDigits 2 blue ++
    if alpha = 255 then [] else hexDigits 2 alpha))

theorem toList_toText {color : Color} {red green blue : Nat}
    (levels : color.levels = ⟨red, green, blue⟩)
    (bytes : red ≤ 255 ∧ green ≤ 255 ∧ blue ≤ 255) :
    color.toText.toList = '#' :: (hexDigits 2 red ++ (hexDigits 2 green ++
      (hexDigits 2 blue ++ alphaDigits color.alpha))) := by
  obtain ⟨r, g, b⟩ := bytes
  simp only [toText, levels, Levels.toList, List.flatMap_cons, List.flatMap_nil, levelDigits_byte r,
    levelDigits_byte g, levelDigits_byte b, String.toList_ofList, List.append_nil,
    List.append_assoc, List.cons_append]

/-- Moving a rounded value into the bytes changes nothing if it is one. -/
theorem roundInto_byte {value : BinaryValue}
    (byte : IsByte (value.roundInto leastWord greatestWord)) :
    value.roundInto 0 255 = value.roundInto leastWord greatestWord := by
  unfold IsByte leastWord greatestWord at *
  cases value with
  | notANumber => rfl
  | infinite sign => cases sign <;> simp [BinaryValue.roundInto] at byte
  | finite sign mantissa exponent =>
    simp only [BinaryValue.roundInto] at byte ⊢
    omega

theorem alphaDigits_byte {alpha : Float32} (byte : IsByte (channelLevel alpha)) :
    alphaDigits alpha = if alpha < 1 then hexDigits 2 (channelLevel alpha).toNat else [] := by
  rw [alphaDigits, roundInto_byte byte]
  rfl

theorem full_channel : channel 255 = 1 := by decide +kernel

theorem not_lt_one : ¬(1 : Float32) < 1 := by decide +kernel

theorem channel_eq_one_iff {level : Nat} (byte : level ≤ 255) :
    channel level = 1 ↔ level = 255 := by
  constructor
  · intro full
    by_contra less
    have below := (channel_lt_one_iff byte).mpr (by omega)
    rw [full] at below
    exact not_lt_one below
  · rintro rfl
    exact full_channel

section
variable {red green blue alpha : Nat}

theorem levels_ofLevels (bytes : red ≤ 255 ∧ green ≤ 255 ∧ blue ≤ 255) (opacity : Float32) :
    (ofLevels red green blue opacity).levels = ⟨red, green, blue⟩ := by
  obtain ⟨r, g, b⟩ := bytes
  simp only [Color.levels, ofLevels, channelLevel_channel r, channelLevel_channel g,
    channelLevel_channel b]

theorem alphaDigits_channel {level : Nat} (byte : level ≤ 255) :
    alphaDigits (channel level) = if level = 255 then [] else hexDigits 2 level := by
  have kept := channelLevel_channel byte
  rw [alphaDigits_byte (by rw [kept, IsByte]; omega), kept, Int.toNat_natCast]
  by_cases full : level = 255
  · rw [if_pos full, if_neg (by rw [channel_lt_one_iff byte]; omega)]
  · rw [if_neg full, if_pos ((channel_lt_one_iff byte).mpr (by omega))]

theorem toList_toText_ofLevels (bytes : red ≤ 255 ∧ green ≤ 255 ∧ blue ≤ 255)
    (byte : alpha ≤ 255) : (ofLevels red green blue (channel alpha)).toText.toList =
      '#' :: levelText red green blue alpha := by
  rw [toList_toText (levels_ofLevels bytes _) bytes, levelText, ← alphaDigits_channel byte]
  rfl

/-! ### Reading what was written -/

theorem denotes_eightDigits (bytes : red ≤ 255 ∧ green ≤ 255 ∧ blue ≤ 255) (byte : alpha ≤ 255) :
    Denotes (hexDigits 2 red ++ (hexDigits 2 green ++ (hexDigits 2 blue ++ hexDigits 2 alpha)))
      (ofLevels red green blue (channel alpha)) := by
  obtain ⟨r, g, b⟩ := bytes
  rw [← List.append_nil (hexDigits 2 alpha)]
  exact .withAlpha (.cons_level r (.cons_level g (.cons_level b (.cons_level byte .nil))))

theorem denotes_levelText (bytes : red ≤ 255 ∧ green ≤ 255 ∧ blue ≤ 255) (byte : alpha ≤ 255) :
    Denotes (levelText red green blue alpha) (ofLevels red green blue (channel alpha)) := by
  unfold levelText
  by_cases full : alpha = 255
  · obtain ⟨r, g, b⟩ := bytes
    rw [if_pos full, full, full_channel]
    exact .opaqueColor (.cons_level r (.cons_level g (.cons_level b .nil)))
  · rw [if_neg full]
    exact denotes_eightDigits bytes byte

theorem Denotes.exists_levels {text : List Char} {color : Color} (denotes : Denotes text color) :
    ∃ red green blue alpha, (red ≤ 255 ∧ green ≤ 255 ∧ blue ≤ 255) ∧ alpha ≤ 255 ∧
      color = ofLevels red green blue (channel alpha) := by
  cases denotes with
  | @opaqueColor red green blue pairs =>
    have bytes := pairs.level_le
    simp only [List.forall_mem_cons] at bytes
    obtain ⟨r, g, b, -⟩ := bytes
    exact ⟨red, green, blue, 255, ⟨r, g, b⟩, le_rfl, by rw [full_channel]; rfl⟩
  | @withAlpha red green blue alpha pairs =>
    have bytes := pairs.level_le
    simp only [List.forall_mem_cons] at bytes
    obtain ⟨r, g, b, a, -⟩ := bytes
    exact ⟨red, green, blue, alpha, ⟨r, g, b⟩, a, rfl⟩

theorem hexDigits_capitals {level : Nat} (byte : level ≤ 255) :
    (hexDigits 2 level).length = 2 ∧ ∀ d ∈ hexDigits 2 level, d ∈ hexCapitals := by
  rw [hexDigits_byte byte]
  refine ⟨rfl, List.forall_mem_cons.mpr ⟨(capital_table _ (by omega)).1, ?_⟩⟩
  exact List.forall_mem_singleton.mpr (capital_table _ (by omega)).1

theorem levelText_capitals (bytes : red ≤ 255 ∧ green ≤ 255 ∧ blue ≤ 255) (byte : alpha ≤ 255) :
    (levelText red green blue alpha).length = (if alpha = 255 then 6 else 8) ∧
      ∀ d ∈ levelText red green blue alpha, d ∈ hexCapitals := by
  obtain ⟨r, g, b⟩ := bytes
  obtain ⟨lr, cr⟩ := hexDigits_capitals r
  obtain ⟨lg, cg⟩ := hexDigits_capitals g
  obtain ⟨lb, cb⟩ := hexDigits_capitals b
  obtain ⟨la, ca⟩ := hexDigits_capitals byte
  unfold levelText
  by_cases full : alpha = 255
  · simp only [if_pos full, List.length_append, lr, lg, lb, List.length_nil, List.forall_mem_append]
    exact ⟨trivial, cr, cg, cb, by simp⟩
  · simp only [if_neg full, List.length_append, lr, lg, lb, la, List.forall_mem_append]
    exact ⟨trivial, cr, cg, cb, ca⟩

end

theorem ofText_of_toList {text : String} {digits : List Char} {color : Color}
    (written : text.toList = '#' :: digits) (denotes : Denotes digits color) :
    ofText text = .ok color := by
  rw [ofText_eq_ok, Color.digits, written]
  exact denotes

/-- A color that was read is written in capital digits, in six of them iff it is fully opaque, and
is read again from these as it was. -/
theorem ofText_toText {text : String} {color : Color} (read : ofText text = .ok color) :
    ofText color.toText = .ok color ∧ ∃ digits, color.toText.toList = '#' :: digits ∧
      (∀ d ∈ digits, d ∈ hexCapitals) ∧
      (color.alpha = 1 ∧ digits.length = 6 ∨ color.alpha ≠ 1 ∧ digits.length = 8) := by
  obtain ⟨red, green, blue, alpha, bytes, byte, rfl⟩ := (ofText_eq_ok.mp read).exists_levels
  have written := toList_toText_ofLevels bytes byte
  obtain ⟨length, capitals⟩ := levelText_capitals bytes byte
  refine ⟨ofText_of_toList written (denotes_levelText bytes byte), _, written, capitals, ?_⟩
  have opacity : (ofLevels red green blue (channel alpha)).alpha = 1 ↔ alpha = 255 :=
    channel_eq_one_iff byte
  rw [ne_eq, opacity, length]
  by_cases full : alpha = 255
  · exact .inl ⟨full, if_pos full⟩
  · exact .inr ⟨full, if_neg full⟩

theorem ofText_toText_of_mixedCase :
    ofText "0aF1C080" = .ok (ofLevels 10 241 192 (channel 128)) ∧
      (ofLevels 10 241 192 (channel 128)).toText = "#0AF1C080" ∧
      ofText (ofLevels 10 241 192 (channel 128)).toText =
        .ok (ofLevels 10 241 192 (channel 128)) := by
  have read : ofText "0aF1C080" = .ok (ofLevels 10 241 192 (channel 128)) := rfl
  exact ⟨read, by decide +kernel, (ofText_toText read).1⟩

/-! ### Any intensities -/

/-- The channels of a color are intensities between none and full. -/
structure WithinRange (color : Color) : Prop where
  red : 0 ≤ color.red ∧ color.red ≤ 1
  green : 0 ≤ color.green ∧ color.green ≤ 1
  blue : 0 ≤ color.blue ∧ color.blue ≤ 1
  alpha : 0 ≤ color.alpha ∧ color.alpha ≤ 1

instance (color : Color) : Decidable color.WithinRange :=
  decidable_of_iff ((0 ≤ color.red ∧ color.red ≤ 1) ∧ (0 ≤ color.green ∧ color.green ≤ 1) ∧
      (0 ≤ color.blue ∧ color.blue ≤ 1) ∧ (0 ≤ color.alpha ∧ color.alpha ≤ 1))
    ⟨fun ⟨red, green, blue, alpha⟩ => ⟨red, green, blue, alpha⟩,
      fun ⟨red, green, blue, alpha⟩ => ⟨red, green, blue, alpha⟩⟩

theorem exists_byte {intensity : Float32} (range : 0 ≤ intensity ∧ intensity ≤ 1) :
    ∃ level : Nat, level ≤ 255 ∧ channelLevel intensity = level := by
  obtain ⟨low, high⟩ := channelLevel_isByte range.1 range.2
  exact ⟨(channelLevel intensity).toNat, by omega, (Int.toNat_of_nonneg low).symm⟩

theorem WithinRange.exists_levels {color : Color} (range : color.WithinRange) :
    ∃ red green blue alpha : Nat, (red ≤ 255 ∧ green ≤ 255 ∧ blue ≤ 255) ∧ alpha ≤ 255 ∧
      color.levels = ⟨red, green, blue⟩ ∧ channelLevel color.alpha = alpha := by
  obtain ⟨red, r, redLevel⟩ := exists_byte range.red
  obtain ⟨green, g, greenLevel⟩ := exists_byte range.green
  obtain ⟨blue, b, blueLevel⟩ := exists_byte range.blue
  obtain ⟨alpha, a, alphaLevel⟩ := exists_byte range.alpha
  exact ⟨red, green, blue, alpha, ⟨r, g, b⟩, a,
    by rw [Color.levels, redLevel, greenLevel, blueLevel], alphaLevel⟩

section
variable {color : Color} {red green blue alpha : Nat}

/-- A color is written as the color of its levels is, unless its alpha is below one but has the full
level, which is left out there. -/
theorem toList_toText_of_levels (range : color.WithinRange)
    (bytes : red ≤ 255 ∧ green ≤ 255 ∧ blue ≤ 255) (levels : color.levels = ⟨red, green, blue⟩)
    (opacity : channelLevel color.alpha = alpha) (clear : ¬(alpha = 255 ∧ color.alpha < 1)) :
    color.toText.toList = '#' :: levelText red green blue alpha := by
  have byte := channelLevel_isByte range.alpha.1 range.alpha.2
  rw [toList_toText levels bytes, alphaDigits_byte byte, opacity, Int.toNat_natCast, levelText]
  by_cases below : color.alpha < 1
  · rw [if_pos below, if_neg fun full => clear ⟨full, below⟩]
  · have full := channelLevel_of_not_lt range.alpha.1 range.alpha.2 below
    rw [if_neg below, if_pos (by omega)]

theorem toList_toText_of_band (bytes : red ≤ 255 ∧ green ≤ 255 ∧ blue ≤ 255)
    (levels : color.levels = ⟨red, green, blue⟩) (opacity : channelLevel color.alpha = 255)
    (below : color.alpha < 1) :
    color.toText.toList = '#' ::
      (hexDigits 2 red ++ (hexDigits 2 green ++ (hexDigits 2 blue ++ hexDigits 2 255))) := by
  have byte : IsByte (channelLevel color.alpha) := by
    rw [opacity]
    decide
  rw [toList_toText levels bytes, alphaDigits_byte byte, if_pos below, opacity]
  rfl

end

/-- What is written for a color is read again. It is also written again, unless the alpha is below
one but rounded to the full level: then it ends in a full alpha that is not written again. What is
written the second time stays the same from then on. -/
theorem toText_kept_iff {color : Color} (range : color.WithinRange) :
    ∃ read, ofText color.toText = .ok read ∧
      (read.toText = color.toText ↔ ¬(leastFull ≤ color.alpha ∧ color.alpha < 1)) ∧
      (leastFull ≤ color.alpha ∧ color.alpha < 1 → color.toText = read.toText ++ "FF") ∧
      ofText read.toText = .ok read := by
  obtain ⟨red, green, blue, alpha, bytes, byte, levels, opacity⟩ := range.exists_levels
  have again := toList_toText_ofLevels bytes byte
  have denotes := denotes_levelText bytes byte
  have kept : ofText (ofLevels red green blue (channel alpha)).toText =
      .ok (ofLevels red green blue (channel alpha)) := ofText_of_toList again denotes
  have full : alpha = 255 ↔ leastFull ≤ color.alpha := by
    rw [← channelLevel_eq_full_iff range.alpha.1 range.alpha.2, opacity]
    omega
  refine ⟨ofLevels red green blue (channel alpha), ?_⟩
  rw [← full]
  by_cases band : alpha = 255 ∧ color.alpha < 1
  · obtain ⟨rfl, below⟩ := band
    have written := toList_toText_of_band bytes levels opacity below
    -- The full alpha is written, but the color that is read from that has no alpha to be written.
    have longer : color.toText = (ofLevels red green blue (channel 255)).toText ++ "FF" := by
      rw [← String.toList_inj, String.toList_append, again, written, levelText, if_pos rfl]
      simp only [List.append_assoc, List.nil_append, List.cons_append]
      rfl
    have changed : (ofLevels red green blue (channel 255)).toText ≠ color.toText := fun same => by
      have lengths := congrArg String.length (longer.symm.trans same.symm)
      have two : "FF".length = 2 := rfl
      rw [String.length_append] at lengths
      omega
    exact ⟨ofText_of_toList written (denotes_eightDigits bytes byte),
      ⟨fun same => absurd same changed, fun clear => absurd ⟨rfl, below⟩ clear⟩,
      fun _ => longer, kept⟩
  · have written := toList_toText_of_levels range bytes levels opacity band
    have same : (ofLevels red green blue (channel alpha)).toText = color.toText :=
      String.toList_inj.mp (again.trans written.symm)
    exact ⟨ofText_of_toList written denotes, ⟨fun _ => band, fun _ => same⟩,
      fun within => absurd within band, kept⟩

theorem toText_kept_iff_of_half :
    (Color.mk 1 0.55 0 0.5).WithinRange ∧ (Color.mk 1 0.55 0 0.5).toText = "#FF8C0080" ∧
      ∃ read, ofText (Color.mk 1 0.55 0 0.5).toText = .ok read ∧
        read.toText = (Color.mk 1 0.55 0 0.5).toText := by
  have range : (Color.mk 1 0.55 0 0.5).WithinRange := by decide +kernel
  obtain ⟨read, made, same, -, -⟩ := toText_kept_iff range
  exact ⟨range, by decide +kernel, read, made, same.mpr (by decide +kernel)⟩

/-- An alpha that is rounded to the full level is written, and is left out after it was read. -/
theorem toText_not_kept :
    (Color.mk 1 1 1 0.999).WithinRange ∧ (Color.mk 1 1 1 0.999).toText = "#FFFFFFFF" ∧
      ofText "#FFFFFFFF" = .ok white ∧ white.toText = "#FFFFFF" :=
  ⟨by decide +kernel, by decide +kernel, rfl, by decide +kernel⟩

end Color

end RoadSketch
