import RoadSketch.Proofs.Color.Rounds

/-!
# Brighter and darker colors

A change of brightness is made in rounds. What levels without room could not take in one round goes
to the others in the next one, in equal shares, and what such a division leaves over is lost.

All rounds move in the same direction, so a run leads to where a single move by some amount leads.
In each round after the first one, fewer levels have room than in the one before. So there are at
most three rounds, and only a division by two can lose something, which is one level at most.

## Main results

- `exists_spreadBrightness`: a run ends within as many rounds as there are levels with room.
- `Color.brighten?_eq_brightenInRounds?`: rounds may as well store a color each.
- `Color.exists_brightened`: what colors are made brighter or darker to.
- `Color.overflows_iff_large`: for which changes a number leaves the range of 32 bits.
-/
namespace RoadSketch

/-! ### Runs -/

/-- A change is done after a round: all of it is made, nothing moved, or nothing can move on. -/
def Settled (changed total : Int) (saturated : Nat) : Prop :=
  changed = total ∨ changed = 0 ∨ saturated = 3

/-- In some round, a number leaves the range of 32 bits. -/
inductive Overflows : Levels → Int → Int → Prop where
  | round {old : Levels} {change channels : Int} (leaves : ¬RoundFits old change) :
      Overflows old change channels
  | total {old : Levels} {change channels : Int} (leaves : ¬IsWord (channels * change)) :
      Overflows old change channels
  | rest {old new : Levels} {change channels changed : Int} {saturated : Nat}
      (round : brightnessRound? old change = some (new, changed, saturated))
      (unsettled : ¬Settled changed (channels * change) saturated)
      (leaves : ¬IsWord (channels * change - changed)) : Overflows old change channels
  | later {old new : Levels} {change channels changed : Int} {saturated : Nat}
      (round : brightnessRound? old change = some (new, changed, saturated))
      (unsettled : ¬Settled changed (channels * change) saturated)
      (next : Overflows new ((channels * change - changed).tdiv (3 - saturated)) (3 - saturated)) :
      Overflows old change channels

section
variable {rounds : Nat} {old result : Levels} {change channels : Int}

theorem spreadBrightness?_succ_eq_some :
    spreadBrightness? (rounds + 1) old change channels = some result ↔
      ∃ new changed saturated, brightnessRound? old change = some (new, changed, saturated) ∧
        IsWord (channels * change) ∧
        (Settled changed (channels * change) saturated ∧ new = result ∨
          ¬Settled changed (channels * change) saturated ∧ IsWord (channels * change - changed) ∧
            spreadBrightness? rounds new ((channels * change - changed).tdiv (3 - saturated))
              (3 - saturated) = some result) := by
  simp only [spreadBrightness?, Option.bind_eq_bind, Option.bind_eq_some_iff, word?_eq_some,
    Option.pure_def, Settled]
  constructor
  · rintro ⟨⟨new, changed, saturated⟩, round, _, ⟨word, rfl⟩, made⟩
    refine ⟨new, changed, saturated, round, word, ?_⟩
    split at made
    next settled => exact .inl ⟨settled, Option.some.inj made⟩
    next unsettled =>
      simp only [Option.bind_eq_some_iff, word?_eq_some] at made
      obtain ⟨_, ⟨rest, rfl⟩, made⟩ := made
      exact .inr ⟨unsettled, rest, made⟩
  · rintro ⟨new, changed, saturated, round, word, made⟩
    refine ⟨(new, changed, saturated), round, _, ⟨word, rfl⟩, ?_⟩
    rcases made with ⟨settled, rfl⟩ | ⟨unsettled, rest, made⟩
    · rw [if_pos settled]
    · rw [if_neg unsettled, rest.word?, Option.bind_some, made]

theorem Overflows.spreadBrightness?_eq_none (overflows : Overflows old change channels)
    (rounds : Nat) : spreadBrightness? rounds old change channels = none := by
  induction rounds generalizing old change channels with
  | zero => rfl
  | succ rounds ih =>
    rw [Option.eq_none_iff_forall_ne_some]
    intro result made
    obtain ⟨new, changed, saturated, round, total, made⟩ := spreadBrightness?_succ_eq_some.mp made
    -- Whatever leaves the range is one of the words of the round, or of a later one.
    cases overflows with
    | round leaves => exact leaves (brightnessRound?_eq_some.mp round).1
    | total leaves => exact leaves total
    | rest same unsettled leaves =>
      cases round.symm.trans same
      exact made.elim (fun done => unsettled done.1) fun more => leaves more.2.1
    | later same unsettled next =>
      cases round.symm.trans same
      refine made.elim (fun done => unsettled done.1) fun more => ?_
      rw [ih next] at more
      cases more.2.2

/-- More rounds than are needed change nothing. -/
theorem spreadBrightness?_more (made : spreadBrightness? rounds old change channels = some result)
    (more : Nat) : spreadBrightness? (rounds + more) old change channels = some result := by
  induction rounds generalizing old change channels with
  | zero => cases made
  | succ rounds ih =>
    rw [Nat.add_right_comm]
    obtain ⟨new, changed, saturated, round, total, made⟩ := spreadBrightness?_succ_eq_some.mp made
    refine spreadBrightness?_succ_eq_some.mpr ⟨new, changed, saturated, round, total, ?_⟩
    exact made.imp_right fun ⟨unsettled, rest, next⟩ => ⟨unsettled, rest, ih next⟩

end

section
variable {up : Bool} {rounds channels amount : Nat} {old : Levels}

/-- A round of a run between 0 and 255, without the words it is calculated with. -/
theorem spreadBrightness?_directed (bytes : old.AreBytes) (small : amount ≤ 715827882)
    (three : channels ≤ 3) (few : Rooms.free (old.rooms up) ≤ channels) :
    spreadBrightness? (rounds + 1) old (directed up amount) channels =
      if Rooms.gain (old.rooms up) amount = channels * amount ∨
          Rooms.gain (old.rooms up) amount = 0 ∨ Rooms.saturated (old.rooms up) amount = 3 then
        some (old.toward up amount)
      else
        spreadBrightness? rounds (old.toward up amount)
          (directed up ((channels * amount - Rooms.gain (old.rooms up) amount) /
            (3 - Rooms.saturated (old.rooms up) amount)))
          (3 - Rooms.saturated (old.rooms up) amount : Nat) := by
  have most : Rooms.gain (old.rooms up) amount ≤ channels * amount :=
    (Rooms.gain_le _ _).trans (Nat.mul_le_mul_right _ few)
  have total : channels * amount ≤ 2147483646 := Nat.mul_le_mul three small
  have bounded : Rooms.saturated (old.rooms up) amount ≤ 3 := List.countP_le_length
  have count : 3 - (Rooms.saturated (old.rooms up) amount : Int) =
      (3 - Rooms.saturated (old.rooms up) amount : Nat) := by omega
  -- What is to change in total is the greatest number of the round.
  have word : IsWord (directed up (channels * amount)) := isWord_directed up (by omega)
  have rest : IsWord (directed up (channels * amount - Rooms.gain (old.rooms up) amount)) :=
    isWord_directed up (by omega)
  rw [spreadBrightness?, brightnessRound?_directed bytes up small]
  simp only [Option.bind_eq_bind, Option.bind_some, directed_mul, word.word?, directed_inj,
    directed_eq_zero, directed_sub up most, rest.word?, count, tdiv_directed]
  rfl

/-- A run ends within as many rounds as there are levels that can have room, and makes the change as
a single move does. -/
theorem exists_spreadBrightness (bytes : old.AreBytes) (small : amount ≤ 715827882)
    (some : 1 ≤ channels) (three : channels ≤ 3) (enough : channels ≤ rounds)
    (few : Rooms.free (old.rooms up) ≤ channels) :
    ∃ shift, spreadBrightness? rounds old (directed up amount) channels =
        Option.some (old.toward up shift) ∧
      Rooms.Makes (old.rooms up) channels amount shift := by
  induction rounds generalizing channels old amount with
  | zero => omega
  | succ rounds ih =>
    rw [spreadBrightness?_directed bytes small three few]
    split
    next settled => exact ⟨amount, rfl, .of_settled few settled⟩
    next unsettled =>
      rw [not_or, not_or] at unsettled
      obtain ⟨missing, -, stuck⟩ := unsettled
      have length : (old.rooms up).length = 3 := rfl
      have bounded : Rooms.saturated (old.rooms up) amount ≤ 3 := List.countP_le_length
      obtain ⟨little, fewer, freed⟩ :=
        Rooms.remaining (bytes.room_le up) few missing (by omega)
      rw [length, ← bytes.rooms_toward] at freed
      have total := Nat.mul_le_mul three little
      have share := Nat.div_le_self (channels * amount - Rooms.gain (old.rooms up) amount)
        (3 - Rooms.saturated (old.rooms up) amount)
      -- The levels that are left share what is left of the change, which is little by now.
      obtain ⟨more, made, makes⟩ := ih (bytes.toward amount) (share.trans (by omega))
        (show 1 ≤ 3 - Rooms.saturated (old.rooms up) amount by omega) (by omega) (by omega) freed
      rw [bytes.toward_toward] at made
      rw [bytes.rooms_toward] at makes
      exact ⟨amount + more, made, makes.add few three (by omega) (by omega)⟩

end

/-! ### Rounds over colors -/

/-- A round leads to levels from 0 to 255. -/
theorem Levels.AreBytes.of_brightnessRound? {old new : Levels} {change changed : Int}
    {saturated : Nat} (round : brightnessRound? old change = some (new, changed, saturated)) :
    new.AreBytes := by
  cases (brightnessRound?_eq_some.mp round).2
  exact ⟨isByte_limited _ _, isByte_limited _ _, isByte_limited _ _⟩

namespace Color

/-- Rounds with a color between any two of them: each one takes its levels from the channels that
the one before has stored. -/
def brightenInRounds? : Nat → Color → Int → Int → Option Color
  | 0, _, _, _ => none
  | rounds + 1, color, change, channels => do
    let (new, changed, saturated) ← brightnessRound? color.levels change
    let total ← word? (channels * change)
    let result := ofByteLevels new color.alpha
    if changed = total ∨ changed = 0 ∨ saturated = 3 then
      return result
    let rest ← word? (total - changed)
    let remaining : Int := 3 - saturated
    brightenInRounds? rounds result (rest.tdiv remaining) remaining

theorem brightenInRounds?_eq (rounds : Nat) (color : Color) (change channels : Int) :
    brightenInRounds? rounds color change channels =
      (spreadBrightness? rounds color.levels change channels).map
        (ofByteLevels · color.alpha) := by
  induction rounds generalizing color change channels with
  | zero => rfl
  | succ rounds ih =>
    simp only [brightenInRounds?, spreadBrightness?, Option.bind_eq_bind]
    cases round : brightnessRound? color.levels change with
    | none => rfl
    | some result =>
      obtain ⟨new, changed, saturated⟩ := result
      -- What a color stores of the levels of a round is what the next one reads.
      have kept : (ofByteLevels new color.alpha).levels = new :=
        levels_ofByteLevels (.of_brightnessRound? round) color.alpha
      simp only [Option.bind_some, ih, kept]
      cases word? (channels * change) with
      | none => rfl
      | some total =>
        simp only [Option.bind_some]
        split
        · rfl
        · cases word? (total - changed) <;> rfl

/-- Storing a color after every round changes nothing. -/
theorem brighten?_eq_brightenInRounds? (color : Color) (change : Int) :
    color.brighten? change = brightenInRounds? 16 color change 3 := by
  rw [brightenInRounds?_eq, brighten?]
  exact (map_eq_pure_bind _ _).symm

end Color

/-! ### Colors -/

namespace Levels

instance : LE Levels :=
  ⟨fun low high => low.red ≤ high.red ∧ low.green ≤ high.green ∧ low.blue ≤ high.blue⟩

/-- Levels are made brighter by a change, or darker if it is negative. Three times the change is
made but for one level, unless there is no more room for it. -/
structure IsSpread (old : Levels) (change : Int) (new : Levels) : Prop where
  bytes : new.AreBytes
  brighter : 0 ≤ change → old ≤ new
  darker : change ≤ 0 → new ≤ old
  shared : |new.total - old.total - 3 * change| ≤ 1 ∨
    0 < change ∧ new = ⟨255, 255, 255⟩ ∨ change < 0 ∧ new = ⟨0, 0, 0⟩

theorem le_iff {low high : Levels} : low ≤ high ↔
    low.red ≤ high.red ∧ low.green ≤ high.green ∧ low.blue ≤ high.blue := Iff.rfl

theorem le_refl (levels : Levels) : levels ≤ levels := ⟨le_rfl, le_rfl, le_rfl⟩

theorem le_toward (amount : Nat) (old : Levels) : old ≤ old.toward true amount := by
  simp only [le_iff, toward, map, moved, directed, if_true]
  omega

theorem toward_le (amount : Nat) (old : Levels) : old.toward false amount ≤ old := by
  simp only [le_iff, toward, map, moved, directed, Bool.false_eq_true, if_false]
  omega

namespace AreBytes

variable {up : Bool} {old : Levels} {amount shift : Nat}

theorem toward_of_full (bytes : old.AreBytes) (full : ∀ room ∈ old.rooms up, room ≤ shift) :
    old.toward up shift = if up then ⟨255, 255, 255⟩ else ⟨0, 0, 0⟩ := by
  simp only [rooms, toList, List.map_cons, List.map_nil, List.forall_mem_cons] at full
  obtain ⟨red, green, blue, -⟩ := full
  simp only [Levels.toward, map, bytes.red.moved_of_full red, bytes.green.moved_of_full green,
    bytes.blue.moved_of_full blue]
  cases up <;> rfl

theorem isSpread_toward (bytes : old.AreBytes)
    (makes : Rooms.Makes (old.rooms up) 3 amount shift) :
    old.IsSpread (directed up amount) (old.toward up shift) where
  bytes := bytes.toward shift
  brighter change := by
    cases up with
    | true => exact le_toward shift old
    | false =>
      -- Nothing is to change, so nothing does.
      have most := makes.atMost
      simp only [directed, Bool.false_eq_true, if_false] at change
      rw [toward_of_gain (by omega)]
      exact le_refl old
  darker change := by
    cases up with
    | true =>
      have most := makes.atMost
      simp only [directed, if_true] at change
      rw [toward_of_gain (by omega)]
      exact le_refl old
    | false => exact toward_le shift old
  shared := by
    obtain ⟨most, near⟩ := makes
    rw [total_toward, abs_le]
    rcases near with near | full
    · left
      cases up <;> simp only [directed] <;> grind
    · rw [bytes.toward_of_full full]
      cases up <;> simp only [directed] <;> grind

end AreBytes

theorem AreBytes.exists_isSpread {levels : Levels} (bytes : levels.AreBytes) {change : Int}
    (small : |change| ≤ 715827882) :
    ∃ new, spreadBrightness? 3 levels change 3 = some new ∧ levels.IsSpread change new := by
  obtain ⟨up, amount, rfl⟩ := exists_directed change
  rw [abs_directed] at small
  have few : Rooms.free (levels.rooms up) ≤ 3 := List.countP_le_length
  obtain ⟨shift, made, makes⟩ :=
    exists_spreadBrightness bytes (by exact_mod_cast small) (by decide) le_rfl le_rfl few
  exact ⟨levels.toward up shift, made, bytes.isSpread_toward makes⟩

end Levels

theorem Overflows.of_large {levels : Levels} {change : Int} (large : 715827883 ≤ |change|) :
    Overflows levels change 3 := by
  refine .total fun word => ?_
  unfold IsWord leastWord greatestWord at word
  rcases le_abs.mp large with up | down <;> omega

namespace Color

variable {levels : Levels}

/-- Colors of levels from 0 to 255 are made brighter or darker in at most three rounds, and keep
their alpha. -/
theorem exists_brightened (bytes : levels.AreBytes) (alpha : Float32) {change : Int}
    (small : |change| ≤ 715827882) :
    ∃ new, levels.IsSpread change new ∧
      spreadBrightness? 3 (ofByteLevels levels alpha).levels change 3 = some new ∧
      (ofByteLevels levels alpha).brighten? change = some (ofByteLevels new alpha) := by
  rw [brighten?, levels_ofByteLevels bytes]
  obtain ⟨new, made, spread⟩ := bytes.exists_isSpread small
  refine ⟨new, spread, made, ?_⟩
  rw [spreadBrightness?_more made 13]
  rfl

theorem exists_brightened_of_saturated :
    (Levels.mk 200 255 40).AreBytes ∧ (Levels.mk 200 255 40).IsSpread 60 ⟨255, 255, 165⟩ ∧
      (ofByteLevels ⟨200, 255, 40⟩ 0.5).brighten? 60 =
        some (ofByteLevels ⟨255, 255, 165⟩ 0.5) := by
  have bytes : (Levels.mk 200 255 40).AreBytes := ⟨by decide, by decide, by decide⟩
  have small : |(60 : Int)| ≤ 715827882 := by decide
  obtain ⟨new, spread, run, made⟩ := exists_brightened bytes 0.5 small
  have known : spreadBrightness? 3 ⟨200, 255, 40⟩ 60 3 = some ⟨255, 255, 165⟩ := by decide
  rw [levels_ofByteLevels bytes] at run
  cases run.symm.trans known
  exact ⟨bytes, spread, made⟩

/-- Changing the brightness of a color of levels from 0 to 255 leaves the range of 32 bits iff three
times the change does. In every other case it gives a color. -/
theorem overflows_iff_large (bytes : levels.AreBytes) (alpha : Float32) (change : Int) :
    (Overflows (ofByteLevels levels alpha).levels change 3 ↔ 715827883 ≤ |change|) ∧
      ((∃ result, (ofByteLevels levels alpha).brighten? change = some result) ↔
        |change| < 715827883) := by
  rw [brighten?, levels_ofByteLevels bytes]
  by_cases large : 715827883 ≤ |change|
  · have overflows : Overflows levels change 3 := .of_large large
    rw [overflows.spreadBrightness?_eq_none]
    exact ⟨iff_of_true overflows large, iff_of_false (by simp) large.not_gt⟩
  · have small : |change| ≤ 715827882 := by omega
    obtain ⟨new, made, -⟩ := bytes.exists_isSpread small
    have fits : ¬Overflows levels change 3 := fun overflows => by
      rw [overflows.spreadBrightness?_eq_none] at made
      cases made
    rw [spreadBrightness?_more made 13]
    exact ⟨iff_of_false fits large, iff_of_true ⟨_, rfl⟩ (lt_of_not_ge large)⟩

theorem overflows_iff_large_of_cyan :
    (Levels.mk 0 255 255).AreBytes ∧
      Overflows (ofByteLevels ⟨0, 255, 255⟩ 1).levels (-715827883) 3 ∧
      ¬Overflows (ofByteLevels ⟨0, 255, 255⟩ 1).levels 715827882 3 := by
  have bytes : (Levels.mk 0 255 255).AreBytes := ⟨by decide, by decide, by decide⟩
  refine ⟨bytes, (overflows_iff_large bytes 1 (-715827883)).1.mpr (by decide), fun overflows => ?_⟩
  exact absurd ((overflows_iff_large bytes 1 715827882).1.mp overflows) (by decide)

end Color

end RoadSketch
