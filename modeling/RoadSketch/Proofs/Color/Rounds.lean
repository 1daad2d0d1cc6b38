import Mathlib.Algebra.BigOperators.Group.List.Basic
import Mathlib.Algebra.Order.BigOperators.Group.List
import Mathlib.Tactic.Linarith
import RoadSketch.Proofs.Color.Intensity

/-!
# Rounds of a change of brightness

A round moves each of the three levels by the same change, or by as much of it as there is room for.
What it calculates are 32-bit words, and a round fails as soon as one of them leaves the range.

A change up to a level is treated like one down to it: `up` tells the direction, and natural numbers
tell how far each level is to move and how much room is left to it.

## Main results

- `brightnessRound?_eq_some`: when a round is calculated, and what it gives.
- `brightnessRound?_directed`: rounds between 0 and 255 are calculated for changes up to 715827882.
-/
namespace RoadSketch

/-! ### Words -/

/-- An integer of 32 bits. -/
def IsWord (n : Int) : Prop := leastWord ≤ n ∧ n ≤ greatestWord

instance (n : Int) : Decidable (IsWord n) := inferInstanceAs (Decidable (_ ∧ _))

theorem word?_eq_some {n m : Int} : word? n = some m ↔ IsWord n ∧ n = m := by
  unfold word? IsWord
  split <;> simp [*]

theorem IsWord.word? {n : Int} (word : IsWord n) : word? n = some n :=
  word?_eq_some.mpr ⟨word, rfl⟩

theorem mapM_word?_eq_some {α : Type} {f : α → Int} {terms : List α} {words : List Int} :
    terms.mapM (fun term => word? (f term)) = some words ↔
      (∀ term ∈ terms, IsWord (f term)) ∧ terms.map f = words := by
  induction terms generalizing words with
  | nil => simp
  | cons term terms ih =>
    simp only [List.mapM_cons, Option.bind_eq_bind, Option.bind_eq_some_iff, word?_eq_some, ih,
      Option.pure_def, Option.some.injEq, List.forall_mem_cons, List.map_cons]
    grind

/-- A sum is calculated iff no running total leaves the range. -/
theorem wordSum?_eq_some {terms : List Int} {sum : Int} :
    wordSum? terms = some sum ↔ (∀ count, IsWord (terms.take count).sum) ∧ terms.sum = sum := by
  -- The fold may start anywhere within the range, so that what was added already can be the start.
  suffices general : ∀ start, IsWord start →
      (terms.foldlM (fun sum n => word? (sum + n)) start = some sum ↔
        (∀ count, IsWord (start + (terms.take count).sum)) ∧ start + terms.sum = sum) by
    simpa [wordSum?] using general 0 (by decide)
  induction terms with
  | nil =>
    intro start word
    simp [word]
  | cons term terms ih =>
    intro start word
    simp only [List.foldlM_cons, Option.bind_eq_bind, Option.bind_eq_some_iff, word?_eq_some]
    constructor
    · rintro ⟨_, ⟨first, rfl⟩, later⟩
      obtain ⟨running, total⟩ := (ih _ first).mp later
      refine ⟨fun count => ?_, by rw [List.sum_cons, ← Int.add_assoc, total]⟩
      cases count with
      | zero => simpa using word
      | succ count => simpa [Int.add_assoc] using running count
    · rintro ⟨running, total⟩
      have first : IsWord (start + term) := by simpa using running 1
      refine ⟨_, ⟨first, rfl⟩, (ih _ first).mpr ⟨fun count => ?_, ?_⟩⟩
      · simpa [Int.add_assoc] using running (count + 1)
      · rw [← total, List.sum_cons, Int.add_assoc]

/-! ### One round -/

/-- A level after a change, moved into the range of levels. -/
def limited (change level : Int) : Int := max 0 (min 255 (level + change))

/-- How far a level moves in a round. -/
def roundMove (change level : Int) : Int := limited change level - level

/-- What a round calculates stays within 32 bits: where the levels aim, how far they move, and the
running totals of that. -/
structure RoundFits (old : Levels) (change : Int) : Prop where
  aims : ∀ level ∈ old.toList, IsWord (level + change)
  moves : ∀ level ∈ old.toList, IsWord (roundMove change level)
  totals : ∀ count, IsWord ((old.toList.map (roundMove change)).take count).sum

theorem isByte_limited (change level : Int) : IsByte (limited change level) := by
  unfold IsByte limited
  omega

theorem brightnessRound?_eq_some {old : Levels} {change : Int} {result : Levels × Int × Nat} :
    brightnessRound? old change = some result ↔ RoundFits old change ∧
      (old.map (limited change), (old.toList.map (roundMove change)).sum,
        old.toList.countP fun level => limited change level ≠ level + change) = result := by
  -- The lists of a round are those of the old levels, each with what becomes of it.
  have pairs : ((old.map (limited change)).toList.zip old.toList).mapM
      (fun pair => word? (pair.1 - pair.2)) =
        old.toList.mapM fun level => word? (roundMove change level) := by
    simp only [Levels.toList, Levels.map, List.zip_cons_cons, List.zip_nil_right, List.mapM_cons,
      List.mapM_nil, roundMove]
  have count : ((old.map (limited change)).toList.zip (old.toList.map (· + change))).countP
      (fun pair => decide (pair.1 ≠ pair.2)) =
        old.toList.countP fun level => limited change level ≠ level + change := rfl
  have clamp : (fun level => max 0 (min 255 (level + change))) = limited change := rfl
  simp only [brightnessRound?, Option.bind_eq_bind, Option.bind_eq_some_iff, mapM_word?_eq_some,
    clamp, pairs, wordSum?_eq_some, Option.some.injEq]
  constructor
  · rintro ⟨_, ⟨aims, rfl⟩, _, ⟨moves, rfl⟩, _, ⟨totals, rfl⟩, made⟩
    exact ⟨⟨aims, moves, totals⟩, made⟩
  · rintro ⟨⟨aims, moves, totals⟩, made⟩
    exact ⟨_, ⟨aims, rfl⟩, _, ⟨moves, rfl⟩, _, ⟨totals, rfl⟩, made⟩

/-! ### Rooms -/

namespace Rooms

/-- By how much levels with some room move in total if each is to move by `amount`. -/
def gain (rooms : List Nat) (amount : Nat) : Nat := (rooms.map (min amount)).sum

/-- What room is left to levels after they moved. -/
def rest (rooms : List Nat) (amount : Nat) : List Nat := rooms.map (· - amount)

/-- How many levels have less room than they are to move. -/
def saturated (rooms : List Nat) (amount : Nat) : Nat := rooms.countP (· < amount)

/-- How many levels have any room. -/
def free (rooms : List Nat) : Nat := rooms.countP (0 < ·)

section
variable (rooms : List Nat) (amount more : Nat)

theorem gain_add :
    gain rooms (amount + more) = gain rooms amount + gain (rest rooms amount) more := by
  induction rooms with
  | nil => rfl
  | cons room rooms ih =>
    simp only [gain, rest, List.map_cons, List.sum_cons] at ih ⊢
    omega

theorem gain_le : gain rooms amount ≤ free rooms * amount := by
  induction rooms with
  | nil => simp [gain]
  | cons room rooms ih =>
    simp only [gain, free, List.map_cons, List.sum_cons, List.countP_cons] at ih ⊢
    by_cases some : 0 < room
    · simp only [some, decide_true, if_true, Nat.add_mul, Nat.one_mul]
      omega
    · simp only [some, decide_false, Bool.false_eq_true, if_false, Nat.add_zero]
      omega

theorem le_gain : rooms.length * amount ≤ gain rooms amount + saturated rooms amount * amount := by
  induction rooms with
  | nil => simp
  | cons room rooms ih =>
    simp only [gain, saturated, List.map_cons, List.sum_cons, List.countP_cons,
      List.length_cons] at ih ⊢
    -- Each level gains the whole amount, or counts as saturated.
    by_cases little : room < amount
    · simp only [little, decide_true, if_true, Nat.add_mul, Nat.one_mul]
      omega
    · simp only [little, decide_false, Bool.false_eq_true, if_false, Nat.add_zero, Nat.add_mul,
        Nat.one_mul]
      omega

theorem free_rest_add_saturated_le :
    free (rest rooms amount) + saturated rooms amount ≤ rooms.length := by
  induction rooms with
  | nil => simp [free, rest, saturated]
  | cons room rooms ih =>
    simp only [free, rest, saturated, List.map_cons, List.countP_cons, List.length_cons] at ih ⊢
    -- No level counts twice: what is saturated has no room left.
    by_cases little : room < amount
    · have none : ¬0 < room - amount := by omega
      simp only [little, none, decide_true, decide_false, if_true, Bool.false_eq_true, if_false]
      omega
    · simp only [little, decide_false, Bool.false_eq_true, if_false]
      split <;> omega

end

section
variable {rooms : List Nat} {channels amount : Nat}

theorem exists_room (able : saturated rooms amount < rooms.length) :
    ∃ room ∈ rooms, amount ≤ room := by
  by_contra none
  push Not at none
  exact able.ne (List.countP_eq_length.mpr fun room member => decide_eq_true (none room member))

theorem eq_zero_of_gain (nothing : gain rooms amount = 0) :
    amount = 0 ∨ ∀ room ∈ rooms, room = 0 := by
  rw [or_iff_not_imp_left]
  intro some room member
  have := List.sum_eq_zero_iff.mp nothing (min amount room) (List.mem_map_of_mem member)
  omega

/-- If some of a change is left after a round, fewer levels than before have room for it. -/
theorem remaining (bounded : ∀ room ∈ rooms, room ≤ 255) (few : free rooms ≤ channels)
    (missing : gain rooms amount ≠ channels * amount)
    (able : saturated rooms amount < rooms.length) :
    amount ≤ 255 ∧ rooms.length < channels + saturated rooms amount ∧
      free (rest rooms amount) ≤ rooms.length - saturated rooms amount := by
  have most : gain rooms amount ≤ channels * amount :=
    (gain_le rooms amount).trans (Nat.mul_le_mul_right amount few)
  have less : gain rooms amount < channels * amount := lt_of_le_of_ne most missing
  have least := le_gain rooms amount
  have left := free_rest_add_saturated_le rooms amount
  obtain ⟨room, member, enough⟩ := exists_room able
  refine ⟨enough.trans (bounded room member), ?_, by omega⟩
  -- Otherwise the levels with room would have gained all that is missing.
  refine Nat.lt_of_mul_lt_mul_right (a := amount) ?_
  rw [Nat.add_mul]
  omega

/-- A move makes a change of `channels * amount` levels in total. It never makes more. It makes less
if there is no more room, and may lose one level if there are three shares. -/
structure Makes (rooms : List Nat) (channels amount shift : Nat) : Prop where
  atMost : gain rooms shift ≤ channels * amount
  near : channels * amount ≤ gain rooms shift + (channels - 2) ∨ ∀ room ∈ rooms, room ≤ shift

theorem Makes.of_settled (few : free rooms ≤ channels)
    (settled : gain rooms amount = channels * amount ∨ gain rooms amount = 0 ∨
      saturated rooms amount = rooms.length) : Makes rooms channels amount amount where
  atMost := (gain_le rooms amount).trans (Nat.mul_le_mul_right amount few)
  near := by
    rcases settled with all | nothing | stuck
    · omega
    · rcases eq_zero_of_gain nothing with rfl | none
      · simp
      · exact .inr fun room member => (none room member).trans_le (Nat.zero_le _)
    · have every := List.countP_eq_length.mp stuck
      exact .inr fun room member => (of_decide_eq_true (every room member)).le

/-- What is left after one move is made by a second one, in fewer shares. -/
theorem Makes.add {left more : Nat} (few : free rooms ≤ channels) (three : channels ≤ 3)
    (some : 0 < left) (fewer : left < channels)
    (later : Makes (rest rooms amount) left ((channels * amount - gain rooms amount) / left) more) :
    Makes rooms channels amount (amount + more) := by
  have most : gain rooms amount ≤ channels * amount :=
    (gain_le rooms amount).trans (Nat.mul_le_mul_right amount few)
  obtain ⟨atMost, near⟩ := later
  obtain ⟨missing, named⟩ : ∃ missing, missing = channels * amount - gain rooms amount := ⟨_, rfl⟩
  rw [← named] at atMost near
  -- With two shares, a division loses one level at most; a single share takes all.
  have shares := Nat.mul_div_le missing left
  have parts := Nat.div_add_mod missing left
  have lost := Nat.mod_lt missing some
  refine ⟨by rw [gain_add]; omega, near.imp (fun close => ?_) fun full room member => ?_⟩
  · rw [gain_add]
    omega
  · have := full (room - amount) (List.mem_map_of_mem member)
    omega

end

end Rooms

/-! ### Directed changes -/

/-- A count of levels up, or down. -/
def directed (up : Bool) (amount : Nat) : Int := if up then amount else -amount

theorem exists_directed (change : Int) : ∃ up amount, change = directed up amount := by
  rcases Int.natAbs_eq change with up | down
  · exact ⟨true, change.natAbs, up⟩
  · exact ⟨false, change.natAbs, down⟩

section
variable {up : Bool} {amount more : Nat}

theorem abs_directed : |directed up amount| = amount := by
  cases up <;> simp [directed]

theorem directed_inj : directed up amount = directed up more ↔ amount = more := by
  cases up <;> simp [directed]

theorem directed_eq_zero : directed up amount = 0 ↔ amount = 0 := by
  cases up <;> simp [directed]

theorem directed_mul (up : Bool) (count amount : Nat) :
    (count : Int) * directed up amount = directed up (count * amount) := by
  cases up <;> simp [directed]

theorem directed_sub (up : Bool) (le : more ≤ amount) :
    directed up amount - directed up more = directed up (amount - more) := by
  cases up <;> simp only [directed] <;> grind

theorem tdiv_directed (up : Bool) (amount count : Nat) :
    (directed up amount).tdiv count = directed up (amount / count) := by
  cases up <;> simp [directed, Int.neg_tdiv]

theorem isWord_directed (up : Bool) (small : amount ≤ 2147483647) :
    IsWord (directed up amount) := by
  unfold IsWord leastWord greatestWord
  cases up <;> simp only [directed] <;> omega

theorem sum_map_directed (up : Bool) (amounts : List Nat) :
    (amounts.map (directed up)).sum = directed up amounts.sum := by
  induction amounts with
  | nil => cases up <;> rfl
  | cons amount amounts ih =>
    rw [List.map_cons, List.sum_cons, List.sum_cons, ih]
    cases up <;> simp only [directed] <;> grind

end

/-- How far a level can move up, or down. -/
def room (up : Bool) (level : Int) : Nat := if up then (255 - level).toNat else level.toNat

/-- A level after a move by an amount, or by as much as there is room for. -/
def moved (up : Bool) (amount : Nat) (level : Int) : Int :=
  level + directed up (min amount (room up level))

theorem moved_ne_iff {up : Bool} {level : Int} {amount : Nat} :
    moved up amount level ≠ level + directed up amount ↔ room up level < amount := by
  unfold moved
  cases up <;> simp only [directed] <;> grind

namespace IsByte

variable {up : Bool} {level : Int}

theorem room_le (byte : IsByte level) (up : Bool) : room up level ≤ 255 := by
  unfold IsByte at byte
  cases up <;> simp only [room] <;> grind

/-- A level moves as far as it is told to, or as far as there is room. -/
theorem limited_eq (byte : IsByte level) (amount : Nat) :
    limited (directed up amount) level = RoadSketch.moved up amount level := by
  unfold IsByte at byte
  cases up <;> simp only [limited, RoadSketch.moved, directed, room] <;> grind

theorem moved (byte : IsByte level) (amount : Nat) :
    IsByte (RoadSketch.moved up amount level) := by
  rw [← byte.limited_eq]
  exact isByte_limited _ level

theorem room_moved (byte : IsByte level) (up : Bool) (amount : Nat) :
    room up (RoadSketch.moved up amount level) = room up level - amount := by
  unfold IsByte at byte
  cases up <;> simp only [RoadSketch.moved, directed, room] <;> grind

theorem moved_moved (byte : IsByte level) (amount more : Nat) :
    RoadSketch.moved up more (RoadSketch.moved up amount level) =
      RoadSketch.moved up (amount + more) level := by
  have left := byte.room_moved up amount
  unfold RoadSketch.moved at left ⊢
  rw [left]
  cases up <;> simp only [directed] <;> grind

theorem moved_of_full (byte : IsByte level) {amount : Nat} (full : room up level ≤ amount) :
    RoadSketch.moved up amount level = if up then 255 else 0 := by
  unfold IsByte at byte
  rw [RoadSketch.moved, min_eq_right full]
  cases up <;> simp only [directed, room] <;> grind

theorem isWord_aim (byte : IsByte level) {amount : Nat} (small : amount ≤ 715827882) :
    IsWord (level + directed up amount) := by
  unfold IsByte at byte
  unfold IsWord leastWord greatestWord
  cases up <;> simp only [directed] <;> grind

theorem roundMove_eq (byte : IsByte level) (amount : Nat) :
    roundMove (directed up amount) level = directed up (min amount (room up level)) := by
  rw [roundMove, byte.limited_eq, RoadSketch.moved]
  omega

end IsByte

namespace Levels

def rooms (up : Bool) (levels : Levels) : List Nat := levels.toList.map (room up)

def total (levels : Levels) : Int := levels.red + levels.green + levels.blue

/-- Levels after each of them moved by an amount, or by as much as there is room for. -/
def toward (up : Bool) (amount : Nat) (levels : Levels) : Levels := levels.map (moved up amount)

variable {up : Bool} {levels : Levels}

theorem total_toward (amount : Nat) : (levels.toward up amount).total - levels.total =
    directed up (Rooms.gain (levels.rooms up) amount) := by
  simp only [Levels.toward, map, moved, total, Rooms.gain, rooms, toList, List.map_cons,
    List.map_nil, List.sum_cons, List.sum_nil]
  cases up <;> simp only [directed] <;> grind

/-- A move that gains nothing changes nothing. -/
theorem toward_of_gain {amount : Nat} (nothing : Rooms.gain (levels.rooms up) amount = 0) :
    levels.toward up amount = levels := by
  simp only [Rooms.gain, rooms, toList, List.map_cons, List.map_nil, List.sum_cons, List.sum_nil,
    Nat.add_eq_zero_iff] at nothing
  obtain ⟨red, green, blue, -⟩ := nothing
  simp only [toward, map, moved, red, green, blue, directed_eq_zero.mpr, Int.add_zero]

namespace AreBytes

theorem toward (bytes : levels.AreBytes) (amount : Nat) : (levels.toward up amount).AreBytes :=
  ⟨bytes.red.moved amount, bytes.green.moved amount, bytes.blue.moved amount⟩

theorem toward_toward (bytes : levels.AreBytes) (amount more : Nat) :
    (levels.toward up amount).toward up more = levels.toward up (amount + more) := by
  simp only [Levels.toward, map, bytes.red.moved_moved, bytes.green.moved_moved,
    bytes.blue.moved_moved]

theorem rooms_toward (bytes : levels.AreBytes) (amount : Nat) :
    (levels.toward up amount).rooms up = Rooms.rest (levels.rooms up) amount := by
  simp only [Levels.toward, map, rooms, Rooms.rest, toList, List.map_cons, List.map_nil,
    bytes.red.room_moved, bytes.green.room_moved, bytes.blue.room_moved]

theorem room_le (bytes : levels.AreBytes) (up : Bool) : ∀ room ∈ levels.rooms up, room ≤ 255 := by
  simp only [rooms, List.forall_mem_map]
  exact fun level channel => (bytes.of_mem channel).room_le up

theorem gain_le (bytes : levels.AreBytes) (up : Bool) (amount : Nat) :
    Rooms.gain (levels.rooms up) amount ≤ 765 := by
  have red := bytes.red.room_le up
  have green := bytes.green.room_le up
  have blue := bytes.blue.room_le up
  simp only [Rooms.gain, rooms, toList, List.map_cons, List.map_nil, List.sum_cons, List.sum_nil]
  omega

theorem map_roundMove (bytes : levels.AreBytes) (amount : Nat) :
    levels.toList.map (roundMove (directed up amount)) =
      ((levels.rooms up).map (min amount)).map (directed up) := by
  rw [List.map_map, rooms, List.map_map]
  exact List.map_congr_left fun level channel => (bytes.of_mem channel).roundMove_eq amount

theorem roundFits (bytes : levels.AreBytes) {amount : Nat} (small : amount ≤ 715827882) :
    RoundFits levels (directed up amount) where
  aims level channel := (bytes.of_mem channel).isWord_aim small
  moves level channel := by
    rw [(bytes.of_mem channel).roundMove_eq]
    have := (bytes.of_mem channel).room_le up
    exact isWord_directed up (by omega)
  totals count := by
    -- All levels move in one direction, so no running total exceeds the last one.
    rw [bytes.map_roundMove, ← List.map_take, sum_map_directed]
    have part := (List.take_sublist count ((levels.rooms up).map (min amount))).sum_le_sum
      fun _ _ => Nat.zero_le _
    have whole := bytes.gain_le up amount
    unfold Rooms.gain at whole
    exact isWord_directed up (by omega)

end AreBytes

end Levels

theorem brightnessRound?_directed {old : Levels} (bytes : old.AreBytes) (up : Bool) {amount : Nat}
    (small : amount ≤ 715827882) :
    brightnessRound? old (directed up amount) = some (old.toward up amount,
      directed up (Rooms.gain (old.rooms up) amount), Rooms.saturated (old.rooms up) amount) := by
  refine brightnessRound?_eq_some.mpr ⟨bytes.roundFits small, ?_⟩
  simp only [Prod.mk.injEq]
  refine ⟨?levels, ?changed, ?saturated⟩
  case levels =>
    simp only [Levels.map, Levels.toward, bytes.red.limited_eq, bytes.green.limited_eq,
      bytes.blue.limited_eq]
  case changed => rw [bytes.map_roundMove, sum_map_directed, Rooms.gain]
  case saturated =>
    rw [Rooms.saturated, Levels.rooms, List.countP_map]
    refine List.countP_congr fun level channel => ?_
    simp [(bytes.of_mem channel).limited_eq, moved_ne_iff]

end RoadSketch
