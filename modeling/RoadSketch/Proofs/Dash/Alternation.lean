import RoadSketch.Dash.Line
import RoadSketch.Proofs.Canvas.ColoredBoxes

/-!
# Alternating colors

The colors of dashes drawn one after another, told from their places. The state after some dashes
depends on the parity of their count only.
-/
namespace RoadSketch

variable {α : Type}

/-- The first or the second color of a kind, and black for a kind without a pair of colors. -/
def OutlineKind.tint (dashes : DashSettings α) (kind : OutlineKind) (isFirst : Bool) : Color :=
  match kind.colors? dashes with
  | some (first, second) => if isFirst then first else second
  | none => .black

theorem OutlineKind.colors?_eq_none {dashes : DashSettings α} {kind : OutlineKind} :
    kind.colors? dashes = none ↔ kind = .remove ∨ kind = .select := by
  cases kind <;> simp [OutlineKind.colors?]

theorem OutlineKind.tint_of_pair {dashes : DashSettings α} {kind : OutlineKind} {first second : Color}
    (pair : kind.colors? dashes = some (first, second)) :
    kind.tint dashes = fun isFirst => if isFirst then first else second := by
  funext isFirst
  simp [OutlineKind.tint, pair]

theorem OutlineKind.tint_of_none {dashes : DashSettings α} {kind : OutlineKind}
    (plain : kind.colors? dashes = none) : kind.tint dashes = fun _ => .black := by
  funext isFirst
  simp [OutlineKind.tint, plain]

namespace Alternation

theorem next_of_pair {dashes : DashSettings α} {kind : OutlineKind} {first second : Color}
    (pair : kind.colors? dashes = some (first, second)) (state : Alternation) :
    state.next dashes kind = (kind.tint dashes state.isFirst, state.flip) := by
  simp [next, OutlineKind.tint, pair]

theorem next_of_none {dashes : DashSettings α} {kind : OutlineKind}
    (plain : kind.colors? dashes = none) (state : Alternation) :
    state.next dashes kind = (.black, state) := by
  simp [next, plain]

end Alternation

theorem length_alternating (dashes : DashSettings α) (kind : OutlineKind) (state : Alternation)
    (boxes : Drawing α) : (alternating dashes kind state boxes).1.length = 2 * boxes.length := by
  induction boxes generalizing state with
  | nil => rfl
  | cons box rest ih =>
    simp only [alternating, List.length_cons, ih]
    omega

/-- With a pair of colors, the color of a dash and the state after all of them go by parity. -/
theorem alternating_of_pair {dashes : DashSettings α} {kind : OutlineKind} {first second : Color}
    (pair : kind.colors? dashes = some (first, second)) (state : Alternation)
    (boxes : Drawing α) : alternating dashes kind state boxes =
      (Drawing.painted (fun i => kind.tint dashes (state.isFirst ^^ decide (i % 2 = 1))) boxes,
        ⟨state.isFirst ^^ decide (boxes.length % 2 = 1)⟩) := by
  induction boxes generalizing state with
  | nil => simp [alternating]
  | cons box rest ih =>
    -- Flipping the state shifts the places of the rest by one.
    have turn (n : Nat) : (state.flip.isFirst ^^ decide (n % 2 = 1)) =
        (state.isFirst ^^ decide ((n + 1) % 2 = 1)) := by
      rcases Nat.mod_two_eq_zero_or_one n with even | odd
      · have next : (n + 1) % 2 = 1 := by omega
        simp [Alternation.flip, even, next]
      · have next : (n + 1) % 2 = 0 := by omega
        simp [Alternation.flip, odd, next]
    simp only [alternating, Alternation.next_of_pair pair, ih, turn, Drawing.painted_cons,
      List.length_cons]
    simp

/-- Without a pair of colors, every dash is black and the state is left alone. -/
theorem alternating_of_none {dashes : DashSettings α} {kind : OutlineKind}
    (plain : kind.colors? dashes = none) (state : Alternation) (boxes : Drawing α) :
    alternating dashes kind state boxes = (Drawing.painted (fun _ => .black) boxes, state) := by
  induction boxes with
  | nil => simp [alternating]
  | cons box rest ih =>
    simp only [alternating, Alternation.next_of_none plain, ih, Drawing.painted_cons]

end RoadSketch
