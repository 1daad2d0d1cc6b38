import RoadSketch.Double
import RoadSketch.Proofs.Checked
import RoadSketch.Sketch

/-!
# Hints and handles

While a shape is being moved, a hint offers a place for a new point, and while something is being
selected, the handle under the mouse is picked. A hint looks for the position of the shape that is
nearest to the mouse, and handles are tried point by point. Both agree on which handles there are, so
near a shape there is either a hint or a handle.

## Main result

`hint_or_handle`: near a shape exactly one of the two is shown, and elsewhere there is no hint.
-/
namespace RoadSketch

variable {α : Type} [Scalar α]

def Command.isDisc : Command α → Bool
  | .disc .. => true
  | _ => false

/-- Is there a filled circle in a drawing? -/
def Drawing.showsDisc (drawing : Drawing α) : Bool := drawing.any Command.isDisc

/-- The same view, with only what is under the mouse of interest. -/
def View.selecting (view : View α) : View α := { view with isSelecting := true }

namespace Sketch

/-- The mouse is on the handle of a point. -/
def IsPicked (mouse : Point α) (radius : α) (p : Point α) : Prop :=
  ∃ distance, Distance.ofMeters radius = .ok distance ∧ (Circle.mk p distance).contains mouse

theorem isPicked_iff {radius : α} {distance : Distance α}
    (made : Distance.ofMeters radius = .ok distance) (mouse p : Point α) :
    IsPicked mouse radius p ↔ (Circle.mk p distance).contains mouse := by
  constructor
  · rintro ⟨_, again, inside⟩
    cases made.symm.trans again
    exact inside
  · exact fun inside => ⟨distance, made, inside⟩

theorem showsDisc_handle (circle : Circle α) (resolution : Nat) :
    (handle circle resolution).showsDisc := rfl

/-! ### Handles -/

/-- Looking for a handle stops at the first one. -/
theorem isOnHandle_eq_ok {points : List (Point α)} {mouse : Point α} {radius : α} {hit : Bool}
    (looked : isOnHandle points mouse radius = .ok hit) :
    hit ↔ ∃ p ∈ points, IsPicked mouse radius p := by
  induction points with
  | nil =>
    cases looked
    simp
  | cons p rest ih =>
    simp only [isOnHandle, List.anyM_cons, Checked.bind_eq_ok, Checked.pure_eq_ok] at looked
    obtain ⟨_, ⟨distance, made, rfl⟩, looked⟩ := looked
    rw [List.exists_mem_cons_iff, isPicked_iff made mouse p]
    split at looked
    next inside =>
      cases looked
      exact iff_of_true rfl (.inl inside)
    next outside =>
      rw [or_iff_right outside]
      exact ih looked

/-- Among the handles of some points, those under the mouse are shown. -/
theorem showsDisc_flatten {points : List (Point α)} {mouse : Point α} {radius : α}
    {resolution : Nat} {discs : List (Drawing α)}
    (drawn : points.mapM (fun p => do
      let circle : Circle α := ⟨p, ← Distance.ofMeters radius⟩
      return if !circle.contains mouse then [] else handle circle resolution) = .ok discs) :
    Drawing.showsDisc discs.flatten ↔ ∃ p ∈ points, IsPicked mouse radius p := by
  have related := Checked.mapM_eq_ok.mp drawn
  clear drawn
  induction related with
  | nil => simp [Drawing.showsDisc]
  | @cons p disc points discs shown _ ih =>
    simp only [Checked.bind_eq_ok, Checked.pure_eq_ok] at shown
    obtain ⟨distance, made, rfl⟩ := shown
    rw [List.exists_mem_cons_iff, isPicked_iff made mouse p, List.flatten_cons, Drawing.showsDisc,
      List.any_append, Bool.or_eq_true]
    refine or_congr ?_ ih
    cases (Circle.mk p distance).contains mouse
    · exact iff_of_false Bool.false_ne_true Bool.false_ne_true
    · exact iff_of_true (showsDisc_handle _ _) rfl

/-- While selecting, exactly the handles under the mouse are shown. -/
theorem showsDisc_handles {view : View α} {settings : Settings α} {shape : Polyline α}
    {pointColor textColor : Color} {radius exaggeration : α} {picked : Drawing α}
    (drawn : handles view.selecting settings shape pointColor textColor radius exaggeration =
      .ok picked) :
    picked.showsDisc ↔ ∃ p ∈ shape.points, IsPicked view.mouse (radius * exaggeration) p := by
  simp only [handles, View.selecting, Bool.true_and, Bool.true_or, if_true, List.append_nil] at drawn
  obtain ⟨discs, shown, rest⟩ := Checked.bind_eq_ok.mp drawn
  rw [← showsDisc_flatten shown]
  cases rest
  rfl

/-- All that a hint can be: nothing where the shape is not near or a handle is, and otherwise a disc
like that of a handle. -/
theorem hint_cases {view : View α} {shape : Polyline α} {color : Color} {radius exaggeration : α}
    {offered : Drawing α} (moving : view.isMoving) (idle : view.isSelecting = false)
    (hinted : hint view shape color radius exaggeration = .ok offered) :
    (nearestWithin? shape view.mouse (radius * exaggeration) = .ok none ∧ offered = []) ∨
    ∃ p hit, nearestWithin? shape view.mouse (radius * exaggeration) = .ok (some p) ∧
      isOnHandle shape.points view.mouse (radius * exaggeration) = .ok hit ∧
      offered.showsDisc = !hit := by
  simp only [hint, moving, idle, Bool.not_true, Bool.or_false, Bool.false_eq_true, if_false]
    at hinted
  obtain ⟨nearest?, found, hinted⟩ := Checked.bind_eq_ok.mp hinted
  cases nearest? with
  | none =>
    cases hinted
    exact .inl ⟨found, rfl⟩
  | some p =>
    obtain ⟨hit, looked, hinted⟩ := Checked.bind_eq_ok.mp hinted
    refine .inr ⟨p, hit, found, looked, ?_⟩
    cases hit with
    | true =>
      cases hinted
      rfl
    | false =>
      obtain ⟨_, _, drawn⟩ := Checked.bind_eq_ok.mp hinted
      cases drawn
      rfl

/-! ### Main result -/

/-- Where the mouse is near a shape, a circle is drawn either as the hint for a new point or, once
the view is used for selecting, as the handle of a point. Elsewhere there is no hint, so a new point
is never offered where a handle is picked. -/
theorem hint_or_handle {view : View α} {settings : Settings α} {shape : Polyline α}
    {hintColor pointColor textColor : Color} {radius exaggeration : α} {offered picked : Drawing α}
    (moving : view.isMoving) (idle : view.isSelecting = false)
    (hinted : hint view shape hintColor radius exaggeration = .ok offered)
    (drawn : handles view.selecting settings shape pointColor textColor radius exaggeration =
      .ok picked) :
    ∃ nearest?, nearestWithin? shape view.mouse (radius * exaggeration) = .ok nearest? ∧
      (nearest?.isSome → offered.showsDisc ^^ picked.showsDisc) ∧
      (nearest? = none → offered = []) ∧ ¬(offered.showsDisc ∧ picked.showsDisc) := by
  rcases hint_cases moving idle hinted with ⟨far, rfl⟩ | ⟨p, hit, near, looked, offers⟩
  · exact ⟨none, far, nofun, fun _ => rfl, fun both => Bool.false_ne_true both.1⟩
  · have same : picked.showsDisc = hit :=
      Bool.eq_iff_iff.mpr ((showsDisc_handles drawn).trans (isOnHandle_eq_ok looked).symm)
    rw [offers, same]
    exact ⟨some p, near, fun _ => by cases hit <;> rfl, nofun, by cases hit <;> simp⟩

/-- A view of someone who moves things, with the mouse somewhere. -/
def reaching (mouse : Point Float) : View Float := ⟨mouse, 5, false, true⟩

def street : Polyline Float := ⟨[⟨0, 0⟩, ⟨10, 0⟩, ⟨10, 0⟩]⟩

theorem hint_or_handle_of_street :
    ∃ offered picked, (reaching ⟨5, 3 / 10⟩).isMoving ∧ (reaching ⟨5, 3 / 10⟩).isSelecting = false ∧
      hint (reaching ⟨5, 3 / 10⟩) street .cyan (1 / 2) 2 = .ok offered ∧
      handles (reaching ⟨5, 3 / 10⟩).selecting .standard street .pureRed .white (1 / 2) 2 =
        .ok picked ∧
      (offered.showsDisc ^^ picked.showsDisc) := by
  obtain ⟨offered, hinted⟩ : ∃ offered,
      hint (reaching ⟨5, 3 / 10⟩) street .cyan (1 / 2) 2 = .ok offered :=
    Checked.exists_of_isOk (by decide +kernel)
  obtain ⟨picked, drawn⟩ : ∃ picked, handles (reaching ⟨5, 3 / 10⟩).selecting .standard street
      .pureRed .white (1 / 2) 2 = .ok picked :=
    Checked.exists_of_isOk (by decide +kernel)
  obtain ⟨nearest?, found, near, _⟩ := hint_or_handle rfl rfl hinted drawn
  have close : (nearestWithin? street ⟨5, 3 / 10⟩ (1 / 2 * 2)).toOption.join.isSome := by
    decide +kernel
  have found : nearestWithin? street ⟨5, 3 / 10⟩ (1 / 2 * 2) = .ok nearest? := found
  rw [found] at close
  exact ⟨offered, picked, rfl, rfl, hinted, drawn, near close⟩

end Sketch

end RoadSketch
