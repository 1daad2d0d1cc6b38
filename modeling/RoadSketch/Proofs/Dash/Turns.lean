import Mathlib.Data.List.Induction
import RoadSketch.Double
import RoadSketch.Proofs.Dash.Alternation

/-!
# Turns of an alternation

The colors that an alternation gives out when it is asked for colors of any kinds, flipped and
restarted in any order. All kinds with a pair of colors share one state, so the color of one depends
on the turns of all of them since the last restart. Kinds without a pair take no part in this.

## Main result

`answers_by_turns`: the answer to any call for a color, and that calls for black leave all other
answers alone.
-/
namespace RoadSketch.Alternation

variable {α : Type}

/-- Does a call move on to the other color? -/
def Call.turns : Call → Bool
  | .next kind => kind ≠ .remove ∧ kind ≠ .select
  | .flip => true
  | .restart => false

/-- The number of turns since the last restart, or since the beginning if there was none. -/
def turnsSinceRestart (calls : List Call) : Nat :=
  (calls.reverse.takeWhile (· ≠ .restart)).countP Call.turns

theorem turns_next (dashes : DashSettings α) (kind : OutlineKind) :
    Call.turns (.next kind) = (kind.colors? dashes).isSome := by
  cases kind <;> rfl

theorem turnsSinceRestart_restart (calls : List Call) :
    turnsSinceRestart (calls ++ [.restart]) = 0 := by
  simp [turnsSinceRestart]

theorem turnsSinceRestart_concat {call : Call} (stays : call ≠ .restart) (calls : List Call) :
    turnsSinceRestart (calls ++ [call]) = turnsSinceRestart calls + call.turns.toNat := by
  cases turning : call.turns <;> simp [turnsSinceRestart, stays, turning]

/-! ### One call -/

/-- A call that does not start over turns the state, or leaves it alone. -/
theorem isFirst_make (dashes : DashSettings α) {call : Call} (stays : call ≠ .restart)
    (state : Alternation) :
    (state.make dashes call).2.isFirst = (state.isFirst ^^ call.turns) := by
  cases call with
  | next kind =>
    rw [turns_next dashes]
    cases colors : kind.colors? dashes with
    | none => simp [make, next_of_none colors]
    | some pair => simp [make, next_of_pair colors, flip]
  | flip => simp [make, flip, Call.turns]
  | restart => exact absurd rfl stays

theorem make_of_none {dashes : DashSettings α} {kind : OutlineKind}
    (plain : kind.colors? dashes = none) (state : Alternation) :
    state.make dashes (.next kind) = (some .black, state) := by
  simp [make, next_of_none plain]

theorem make_of_pair {dashes : DashSettings α} {kind : OutlineKind} {first second : Color}
    (pair : kind.colors? dashes = some (first, second)) (state : Alternation) :
    (state.make dashes (.next kind)).1 = some (if state.isFirst then first else second) := by
  simp [make, next_of_pair pair, OutlineKind.tint_of_pair pair]

/-! ### Many calls -/

variable (dashes : DashSettings α)

/-- The answers to calls on a new alternation. -/
def answers (calls : List Call) : List (Option Color) := (start.makeAll dashes calls).1

/-- What calls on a new alternation leave. -/
def leaves (calls : List Call) : Alternation := (start.makeAll dashes calls).2

theorem makeAll_append (state : Alternation) (early late : List Call) :
    state.makeAll dashes (early ++ late) =
      ((state.makeAll dashes early).1 ++ ((state.makeAll dashes early).2.makeAll dashes late).1,
        ((state.makeAll dashes early).2.makeAll dashes late).2) := by
  induction early generalizing state with
  | nil => rfl
  | cons call rest ih => simp [makeAll, ih]

theorem leaves_concat (calls : List Call) (call : Call) :
    leaves dashes (calls ++ [call]) = ((leaves dashes calls).make dashes call).2 := by
  rw [leaves, makeAll_append]
  rfl

theorem answers_append (early late : List Call) :
    answers dashes (early ++ late) =
      answers dashes early ++ ((leaves dashes early).makeAll dashes late).1 := by
  rw [answers, makeAll_append]
  rfl

theorem length_makeAll (state : Alternation) (calls : List Call) :
    (state.makeAll dashes calls).1.length = calls.length := by
  induction calls generalizing state with
  | nil => rfl
  | cons call rest ih => simp [makeAll, ih]

theorem length_answers (calls : List Call) : (answers dashes calls).length = calls.length :=
  length_makeAll dashes start calls

/-- After any calls, the first color comes next iff the number of turns is even. -/
theorem isFirst_leaves (calls : List Call) :
    (leaves dashes calls).isFirst = decide (turnsSinceRestart calls % 2 = 0) := by
  -- By induction on the last call, as it is the one that the count ends with.
  induction calls using List.reverseRecOn with
  | nil => rfl
  | append_singleton calls call ih =>
    rw [leaves_concat]
    by_cases restarts : call = .restart
    · subst restarts
      rw [turnsSinceRestart_restart]
      rfl
    · rw [turnsSinceRestart_concat restarts, isFirst_make dashes restarts, ih]
      cases call.turns with
      | false => simp
      | true =>
        rcases Nat.mod_two_eq_zero_or_one (turnsSinceRestart calls) with even | odd
        · have next : (turnsSinceRestart calls + 1) % 2 = 1 := by omega
          simp [even, next]
        · have next : (turnsSinceRestart calls + 1) % 2 = 0 := by omega
          simp [odd, next]

/-- A call is answered by what the calls before it leave. -/
theorem getElem?_answers (before after : List Call) (call : Call) :
    (answers dashes (before ++ call :: after))[before.length]? =
      some ((leaves dashes before).make dashes call).1 := by
  have place : before.length = (answers dashes before).length := (length_answers ..).symm
  rw [answers_append, place, List.getElem?_append_right Nat.le.refl, Nat.sub_self]
  rfl

/-- A call that leaves the state as it was has no influence on the other answers. -/
theorem eraseIdx_answers {before : List Call} {call : Call}
    (still : ((leaves dashes before).make dashes call).2 = leaves dashes before)
    (after : List Call) :
    (answers dashes (before ++ call :: after)).eraseIdx before.length =
      answers dashes (before ++ after) := by
  have place : before.length = (answers dashes before).length := (length_answers ..).symm
  rw [answers_append, answers_append, place, List.eraseIdx_append_of_length_le Nat.le.refl,
    Nat.sub_self]
  simp only [makeAll, still, List.eraseIdx_cons_zero]

/-! ### Main result -/

/-- A call for a color among any other calls. Of a pair of colors it gives out the first one if the
number of turns since the last restart is even, and the second one otherwise. Without a pair it gives
out black, and all other answers are those that there are without the call. -/
theorem answers_by_turns (before after : List Call) (kind : OutlineKind) :
    (kind ≠ .remove → kind ≠ .select → ∃ first second,
      kind.colors? dashes = some (first, second) ∧
      (answers dashes (before ++ .next kind :: after))[before.length]? =
        some (some (if turnsSinceRestart before % 2 = 0 then first else second))) ∧
    (kind = .remove ∨ kind = .select →
      (answers dashes (before ++ .next kind :: after))[before.length]? = some (some .black) ∧
      (answers dashes (before ++ .next kind :: after)).eraseIdx before.length =
        answers dashes (before ++ after)) := by
  rw [getElem?_answers]
  constructor
  · intro notRemove notSelect
    have paired : kind.colors? dashes ≠ none := fun plain =>
      (OutlineKind.colors?_eq_none.mp plain).elim notRemove notSelect
    obtain ⟨⟨first, second⟩, pair⟩ := Option.ne_none_iff_exists'.mp paired
    refine ⟨first, second, pair, ?_⟩
    rw [make_of_pair pair, isFirst_leaves]
    simp only [decide_eq_true_eq]
  · intro black
    have plain : kind.colors? dashes = none := OutlineKind.colors?_eq_none.mpr black
    have still := make_of_none plain (leaves dashes before)
    exact ⟨by rw [still], eraseIdx_answers dashes (by rw [still]) after⟩

/-- Calls with a restart among them, after which a color was given out and the state flipped, and
black was asked for twice. -/
def mixedCalls : List Call :=
  [.next .inspect, .next .remove, .flip, .next .front, .restart, .next .green, .next .select, .flip,
    .next .remove]

theorem answers_by_turns_of_mixedCalls :
    OutlineKind.magenta ≠ .remove ∧ OutlineKind.magenta ≠ .select ∧
    (answers (.standard : DashSettings Float) (mixedCalls ++ [.next .magenta]))[9]? =
      some (some .magenta) ∧
    (answers (.standard : DashSettings Float)
      (mixedCalls ++ [.next .select, .next .magenta])).eraseIdx 9 =
        answers (.standard : DashSettings Float) (mixedCalls ++ [.next .magenta]) := by
  have notRemove : OutlineKind.magenta ≠ .remove := by decide
  have notSelect : OutlineKind.magenta ≠ .select := by decide
  obtain ⟨first, second, pair, answer⟩ :=
    (answers_by_turns (.standard : DashSettings Float) mixedCalls [] .magenta).1 notRemove notSelect
  cases pair
  have alone := (answers_by_turns (.standard : DashSettings Float) mixedCalls [.next .magenta]
    .select).2 (.inr rfl)
  exact ⟨notRemove, notSelect, answer, alone.2⟩

end RoadSketch.Alternation
