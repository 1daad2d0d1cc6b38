import Mathlib.Data.List.Basic
import Mathlib.Tactic.IntervalCases
import RoadSketch.Color.Hex
import RoadSketch.Proofs.Checked

/-!
# Reading colors

A color is read in pairs of hexadecimal digits: three pairs, or four if the color has an alpha. The
first digit of a pair may also be a plus sign, which counts as a zero.

## Main result

`Color.ofText_eq_ok_iff`: which texts are read as which colors. The texts that are read and have no
plus sign are those of six or of eight hexadecimal digits.
-/
namespace RoadSketch

/-! ### Digits -/

def hexCapitals : List Char := "0123456789ABCDEF".toList

/-- A character stands for a hexadecimal digit, as a capital or as a small letter. -/
def IsHexDigit (c : Char) (digit : Nat) : Prop := hexCapitals[digit]? = some c.toUpper

theorem IsHexDigit.lt {c : Char} {digit : Nat} (stands : IsHexDigit c digit) : digit < 16 :=
  (List.getElem?_eq_some_iff.mp stands).1

theorem IsHexDigit.ascii {c : Char} {digit : Nat} (stands : IsHexDigit c digit) :
    c.toNat < 128 := by
  by_contra large
  -- Only the small letters among plain characters have a capital of their own.
  have capital : c.toUpper = c := by
    refine dif_neg fun small => ?_
    have below : c.toNat ≤ 122 := small.2
    omega
  have member := List.mem_of_getElem? stands
  rw [capital] at member
  have ascii : hexCapitals.all fun d => decide (d.toNat < 128) := by decide
  exact large (of_decide_eq_true (List.all_eq_true.mp ascii c member))

theorem ascii_of_hexDigit? {c : Char} {digit : Nat} (read : hexDigit? c = some digit) :
    c.toNat < 128 ∧ digit < 16 := by
  have digits : '9'.toNat = 57 := rfl
  unfold hexDigit? at read
  split at read
  next range =>
    have bounds : 48 ≤ c.toNat ∧ c.toNat ≤ 57 := range
    cases read
    exact ⟨by omega, by change c.toNat - 48 < 16; omega⟩
  · split at read
    next range =>
      have bounds : 97 ≤ c.toNat ∧ c.toNat ≤ 102 := range
      cases read
      exact ⟨by omega, by change c.toNat - 97 + 10 < 16; omega⟩
    · split at read
      next range =>
        have bounds : 65 ≤ c.toNat ∧ c.toNat ≤ 70 := range
        cases read
        exact ⟨by omega, by change c.toNat - 65 + 10 < 16; omega⟩
      · cases read

theorem hexDigit?_eq_some_iff {c : Char} {digit : Nat} :
    hexDigit? c = some digit ↔ IsHexDigit c digit := by
  -- No other characters are digits on either side, so a table of these settles it.
  have table : ∀ code < 128, ∀ digit < 16, hexDigit? (Char.ofNat code) = some digit ↔
      hexCapitals[digit]? = some (Char.ofNat code).toUpper := by decide +kernel
  have known (ascii : c.toNat < 128) (small : digit < 16) := table c.toNat ascii digit small
  rw [Char.ofNat_toNat] at known
  constructor
  · intro read
    obtain ⟨ascii, small⟩ := ascii_of_hexDigit? read
    exact (known ascii small).mp read
  · intro stands
    exact (known stands.ascii stands.lt).mpr stands

theorem not_isHexDigit_plus (digit : Nat) : ¬IsHexDigit '+' digit := by
  have plus : hexDigit? '+' = none := by decide
  simp [← hexDigit?_eq_some_iff, plus]

/-! ### Pairs -/

/-- The level that a pair of characters stands for. -/
def IsLevel (high low : Char) (level : Nat) : Prop :=
  ∃ first second, (IsHexDigit high first ∨ high = '+' ∧ first = 0) ∧ IsHexDigit low second ∧
    level = 16 * first + second

theorem hexLevel_eq_ok {high low : Char} {level : Nat} :
    hexLevel high low = .ok level ↔ IsLevel high low level := by
  simp only [IsLevel, ← hexDigit?_eq_some_iff]
  have plus : hexDigit? '+' = none := by decide
  unfold hexLevel
  cases second : hexDigit? low with
  | none => cases hexDigit? high <;> simp
  | some l =>
    cases first : hexDigit? high with
    | none =>
      by_cases sign : high = '+'
      · simp [sign, eq_comm]
      · simp [sign]
    | some h =>
      have noSign : high ≠ '+' := fun sign => by simp [sign, plus] at first
      simp [noSign, eq_comm]

/-- Pairs of characters stand for levels, one after another. -/
inductive Pairs : List Char → List Nat → Prop where
  | nil : Pairs [] []
  | cons {high low : Char} {level : Nat} {rest : List Char} {levels : List Nat}
      (first : IsLevel high low level) (others : Pairs rest levels) :
      Pairs (high :: low :: rest) (level :: levels)

theorem Pairs.length {text : List Char} {levels : List Nat} (pairs : Pairs text levels) :
    text.length = 2 * levels.length := by
  induction pairs with
  | nil => rfl
  | cons first others ih =>
    simp only [List.length_cons, ih]
    omega

theorem Pairs.isHexDigit_or_plus {text : List Char} {levels : List Nat}
    (pairs : Pairs text levels) : ∀ c ∈ text, (∃ digit, IsHexDigit c digit) ∨ c = '+' := by
  induction pairs with
  | nil => simp
  | cons first others ih =>
    obtain ⟨h, l, high, low, _⟩ := first
    intro c member
    rcases List.mem_cons.mp member with rfl | member
    · exact high.imp (fun stands => ⟨h, stands⟩) And.left
    · rcases List.mem_cons.mp member with rfl | member
      · exact .inl ⟨l, low⟩
      · exact ih c member

theorem exists_pairs {text : List Char} {count : Nat} (even : text.length = 2 * count)
    (digits : ∀ c ∈ text, ∃ digit, IsHexDigit c digit) :
    ∃ levels, Pairs text levels ∧ levels.length = count := by
  induction count generalizing text with
  | zero =>
    rw [List.length_eq_zero_iff.mp even]
    exact ⟨[], .nil, rfl⟩
  | succ count ih =>
    match text, even with
    | high :: low :: rest, even =>
      obtain ⟨h, first⟩ := digits high (by simp)
      obtain ⟨l, second⟩ := digits low (by simp)
      have shorter : rest.length = 2 * count := by
        simp only [List.length_cons] at even
        omega
      obtain ⟨levels, pairs, length⟩ := ih shorter fun c member => digits c (by simp [member])
      exact ⟨_ :: levels, .cons ⟨h, l, .inl first, second, rfl⟩ pairs, by simp [length]⟩

/-! ### Texts -/

namespace Color

/-- The digits of a color, without the mark that may stand before them. -/
def digits (text : String) : List Char :=
  match text.toList with
  | '#' :: rest => rest
  | rest => rest

/-- Characters stand for a color: three levels, and a fourth one for its alpha if it has one. -/
inductive Denotes (text : List Char) : Color → Prop where
  | opaqueColor {red green blue : Nat} (pairs : Pairs text [red, green, blue]) :
      Denotes text
        ⟨Float32.ofNat red / 255, Float32.ofNat green / 255, Float32.ofNat blue / 255, 1⟩
  | withAlpha {red green blue alpha : Nat} (pairs : Pairs text [red, green, blue, alpha]) :
      Denotes text
        ⟨Float32.ofNat red / 255, Float32.ofNat green / 255, Float32.ofNat blue / 255,
          Float32.ofNat alpha / 255⟩

theorem denotes_six {r₁ r₂ g₁ g₂ b₁ b₂ : Char} {color : Color} :
    Denotes [r₁, r₂, g₁, g₂, b₁, b₂] color ↔ ∃ red, IsLevel r₁ r₂ red ∧ ∃ green,
      IsLevel g₁ g₂ green ∧ ∃ blue, IsLevel b₁ b₂ blue ∧ opaqueOfLevels red green blue = color := by
  constructor
  · rintro (pairs | pairs)
    · match pairs with
      | .cons first (.cons second (.cons third .nil)) =>
        exact ⟨_, first, _, second, _, third, rfl⟩
    · simpa using pairs.length
  · rintro ⟨_, first, _, second, _, third, rfl⟩
    exact .opaqueColor (.cons first (.cons second (.cons third .nil)))

theorem denotes_eight {r₁ r₂ g₁ g₂ b₁ b₂ a₁ a₂ : Char} {color : Color} :
    Denotes [r₁, r₂, g₁, g₂, b₁, b₂, a₁, a₂] color ↔ ∃ red, IsLevel r₁ r₂ red ∧ ∃ green,
      IsLevel g₁ g₂ green ∧ ∃ blue, IsLevel b₁ b₂ blue ∧ ∃ alpha, IsLevel a₁ a₂ alpha ∧
        ofLevels red green blue (channel alpha) = color := by
  constructor
  · rintro (pairs | pairs)
    · simpa using pairs.length
    · match pairs with
      | .cons first (.cons second (.cons third (.cons fourth .nil))) =>
        exact ⟨_, first, _, second, _, third, _, fourth, rfl⟩
  · rintro ⟨_, first, _, second, _, third, _, fourth, rfl⟩
    exact .withAlpha (.cons first (.cons second (.cons third (.cons fourth .nil))))

/-- What stands for a color has six or eight characters. -/
theorem Denotes.length {text : List Char} {color : Color} (denotes : Denotes text color) :
    text.length = 6 ∨ text.length = 8 := by
  cases denotes with
  | opaqueColor pairs => exact .inl pairs.length
  | withAlpha pairs => exact .inr pairs.length

theorem Denotes.exists_chars {text : List Char} {color : Color} (denotes : Denotes text color) :
    (∃ r₁ r₂ g₁ g₂ b₁ b₂, text = [r₁, r₂, g₁, g₂, b₁, b₂]) ∨
      ∃ r₁ r₂ g₁ g₂ b₁ b₂ a₁ a₂, text = [r₁, r₂, g₁, g₂, b₁, b₂, a₁, a₂] := by
  rcases denotes.length with six | eight
  · match text, six with
    | [r₁, r₂, g₁, g₂, b₁, b₂], _ => exact .inl ⟨r₁, r₂, g₁, g₂, b₁, b₂, rfl⟩
  · match text, eight with
    | [r₁, r₂, g₁, g₂, b₁, b₂, a₁, a₂], _ =>
      exact .inr ⟨r₁, r₂, g₁, g₂, b₁, b₂, a₁, a₂, rfl⟩

theorem Denotes.exists_pairs {text : List Char} {color : Color} (denotes : Denotes text color) :
    ∃ levels, Pairs text levels := by
  cases denotes with
  | opaqueColor pairs => exact ⟨_, pairs⟩
  | withAlpha pairs => exact ⟨_, pairs⟩

theorem Denotes.ascii {text : List Char} {color : Color} (denotes : Denotes text color) :
    text.all fun c => decide (c.toNat < 128) := by
  obtain ⟨levels, pairs⟩ := denotes.exists_pairs
  rw [List.all_eq_true]
  intro c member
  rcases pairs.isHexDigit_or_plus c member with ⟨digit, stands⟩ | rfl
  · exact decide_eq_true stands.ascii
  · rfl

theorem ofText_eq_ok {text : String} {color : Color} :
    ofText text = .ok color ↔ Denotes (digits text) color := by
  unfold ofText
  extract_lets chars read
  have named : digits text = chars := rfl
  rw [named]
  clear_value chars
  -- Texts with other than plain characters are turned away before they are taken apart.
  by_cases ascii : chars.all fun c => decide (c.toNat < 128)
  · rw [if_neg (by simp [ascii])]
    unfold read
    split
    · simp only [Checked.bind_eq_ok, Checked.pure_eq_ok, hexLevel_eq_ok, denotes_six]
    · simp only [Checked.bind_eq_ok, Checked.pure_eq_ok, hexLevel_eq_ok, denotes_eight]
    next notSix notEight =>
      refine ⟨(fun failed => by cases failed), fun denotes => ?_⟩
      rcases denotes.exists_chars with ⟨r₁, r₂, g₁, g₂, b₁, b₂, six⟩ |
        ⟨r₁, r₂, g₁, g₂, b₁, b₂, a₁, a₂, eight⟩
      · exact absurd six (notSix r₁ r₂ g₁ g₂ b₁ b₂)
      · exact absurd eight (notEight r₁ r₂ g₁ g₂ b₁ b₂ a₁ a₂)
  · rw [if_pos (by simpa using ascii)]
    exact ⟨(fun failed => by cases failed), fun denotes => absurd denotes.ascii ascii⟩

theorem exists_denotes {text : List Char} (length : text.length = 6 ∨ text.length = 8)
    (digits : ∀ c ∈ text, ∃ digit, IsHexDigit c digit) : ∃ color, Denotes text color := by
  rcases length with six | eight
  · obtain ⟨levels, pairs, three⟩ : ∃ levels, Pairs text levels ∧ levels.length = 3 :=
      RoadSketch.exists_pairs six digits
    match levels, three with
    | [red, green, blue], _ => exact ⟨_, .opaqueColor pairs⟩
  · obtain ⟨levels, pairs, four⟩ : ∃ levels, Pairs text levels ∧ levels.length = 4 :=
      RoadSketch.exists_pairs eight digits
    match levels, four with
    | [red, green, blue, alpha], _ => exact ⟨_, .withAlpha pairs⟩

/-- A text is read as a color iff, without the mark before them, its characters are three or four
pairs that stand for the channels, and then each channel is its level of 255. Of the texts without a
plus sign, those of six or of eight hexadecimal digits are read. -/
theorem ofText_eq_ok_iff (text : String) :
    (∀ color, ofText text = .ok color ↔ Denotes (digits text) color) ∧
    ((∃ color, ofText text = .ok color) ∧ '+' ∉ digits text ↔
      ((digits text).length = 6 ∨ (digits text).length = 8) ∧
        ∀ c ∈ digits text, ∃ digit, IsHexDigit c digit) := by
  refine ⟨fun color => ofText_eq_ok, ?_⟩
  simp only [ofText_eq_ok]
  constructor
  · rintro ⟨⟨color, denotes⟩, unsigned⟩
    obtain ⟨levels, pairs⟩ := denotes.exists_pairs
    refine ⟨denotes.length, fun c member => ?_⟩
    exact (pairs.isHexDigit_or_plus c member).resolve_right fun plus => unsigned (plus ▸ member)
  · rintro ⟨length, stands⟩
    refine ⟨exists_denotes length stands, fun member => ?_⟩
    obtain ⟨digit, plus⟩ := stands '+' member
    exact not_isHexDigit_plus digit plus

/-- A plus sign is no hexadecimal digit, but may stand for the first one of a pair. -/
theorem ofText_plus : (∃ color, ofText "+F0000" = .ok color) ∧
    ¬∀ c ∈ digits "+F0000", ∃ digit, IsHexDigit c digit := by
  refine ⟨Checked.exists_of_isOk (by decide +kernel), fun stands => ?_⟩
  obtain ⟨digit, plus⟩ := stands '+' (by decide +kernel)
  exact not_isHexDigit_plus digit plus

end Color

end RoadSketch
