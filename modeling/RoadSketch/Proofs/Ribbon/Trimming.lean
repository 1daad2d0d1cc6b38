import RoadSketch.Proofs.Nearness
import RoadSketch.Proofs.Order
import RoadSketch.Proofs.Polyline.Corners
import RoadSketch.Proofs.Ribbon.Fitting
import RoadSketch.Ribbon.Basic

/-!
# Cutting and trimming

A ribbon is cut to the window between two positions, or trimmed from its ends. On a shape without
repeated points these are one operation, as long as no end is negative. A negative start is where
they part: to a cut it means the whole shape, to trims only that nothing is taken off in front. So
such a cut is what trims do that leave the far end alone.

## Main result

`edit_cut_eq_edit_trim`: cuts and trims, over all numbers whose comparisons agree.
-/
namespace RoadSketch

variable {α : Type} [Scalar α] [LawfulOrder α]

namespace Window

variable {start finish length : Distance α}

theorem not_lt_zero (nonneg : .zero ≤ start) : ¬start < .zero := by
  have number := LawfulOrder.isNumber_of_le _ _ nonneg
  exact (LawfulOrder.not_lt_iff _ _ number.2 number.1).mpr nonneg

theorem not_zero_le (negative : start < .zero) : ¬.zero ≤ start := fun nonneg =>
  not_lt_zero nonneg negative

/-- Positions on the path, or beyond its end, are trims that count. -/
theorem ofPositions_eq_ofTrims (forward : .zero ≤ start) (ahead : .zero ≤ finish) :
    ofPositions start finish length = ofTrims (some start) (some finish) length := by
  rw [ofPositions, if_neg (not_lt_zero forward), ofTrims, usable?_eq_some forward,
    usable?_eq_some ahead, Option.getD_some, Option.getD_some]

/-- With a negative start, the end does not matter. -/
theorem ofPositions_of_negative (negative : start < .zero) :
    ofPositions start finish length = ofTrims (some start) none length := by
  rw [ofPositions, if_pos negative, ofTrims, usable?_eq_none (not_zero_le negative)]
  rfl

end Window

variable [LawfulGaps α] {shape : Polyline α}

/-- Without repeated points, nothing is dropped, and nothing is moved sideways by no width. -/
theorem Polyline.shift_zero (changing : shape.points.IsChain fun p q => ¬p.coincides q) :
    shape.shift 0 = .ok shape := by
  have same : (0 : α) == 0 := LawfulOrder.isNumber_zero
  have turned : shape.points.IsChain fun kept p => ¬p.coincides kept :=
    changing.imp fun p q apart => by rwa [Point.coincides_comm]
  have whole : shape.withoutRepeats = shape := by
    rw [withoutRepeats_eq, List.destutter_of_isChain _ _ turned]
  rw [shift, whole, same, Bool.or_true]
  rfl

namespace Ribbon

/-- A window and trims that take the same piece off every length make the same ribbon. -/
theorem ofWindow_eq_ofTrims (changing : shape.points.IsChain fun p q => ¬p.coincides q)
    {start finish first : Distance α} {last : Option (Distance α)}
    (same : ∀ length, Window.ofPositions start finish length =
      Window.ofTrims (some first) last length) :
    ofWindow shape start finish 0 = ofTrims shape (some first) last none none := by
  rw [ofWindow, Polyline.shift_zero changing, Checked.ok_bind]
  simp only [same]
  rfl

/-! ### Main result -/

/-- Cutting a shape without repeated points, unmoved, to the window between two positions is
trimming it at both, and cutting it from a negative position is trimming it there alone: whatever
the ribbon was before, both leave the same one, or stop with the same fault. -/
theorem edit_cut_eq_edit_trim (changing : shape.points.IsChain fun p q => ¬p.coincides q)
    (ribbon : Ribbon α) (start finish : Distance α) :
    (.zero ≤ start → .zero ≤ finish →
      ribbon.edit (.cut shape start finish 0) =
        ribbon.edit (.trim shape (some start) (some finish) none none)) ∧
    (start < .zero →
      ribbon.edit (.cut shape start finish 0) =
        ribbon.edit (.trim shape (some start) none none none)) := by
  constructor
  · intro forward ahead
    exact ofWindow_eq_ofTrims changing fun _ => Window.ofPositions_eq_ofTrims forward ahead
  · intro negative
    exact ofWindow_eq_ofTrims changing fun _ => Window.ofPositions_of_negative negative

/-- A path that comes back to where it started. -/
def peak : Polyline Float := ⟨[⟨0, 0⟩, ⟨3, 4⟩, ⟨0, 0⟩]⟩

/-- On its way back, and as a whole, in place of a single point. -/
theorem edit_cut_eq_edit_trim_of_peak :
    (peak.points.IsChain fun p q => ¬p.coincides q) ∧
    (.zero : Distance Float) ≤ ⟨6⟩ ∧ (.zero : Distance Float) ≤ ⟨7⟩ ∧
    (⟨-1⟩ : Distance Float) < .zero ∧
    (∃ ribbon, (ofPoint ⟨1, 1⟩ 45).edit (.cut peak ⟨6⟩ ⟨7⟩ 0) = .ok ribbon ∧
      (ofPoint ⟨1, 1⟩ 45).edit (.trim peak (some ⟨6⟩) (some ⟨7⟩) none none) = .ok ribbon) ∧
    ∃ ribbon, (ofPoint ⟨1, 1⟩ 45).edit (.cut peak ⟨-1⟩ ⟨7⟩ 0) = .ok ribbon ∧
      (ofPoint ⟨1, 1⟩ 45).edit (.trim peak (some ⟨-1⟩) none none none) = .ok ribbon := by
  have changing : peak.points.IsChain fun p q => ¬p.coincides q := by decide +kernel
  have forward : (.zero : Distance Float) ≤ ⟨6⟩ := by decide +kernel
  have ahead : (.zero : Distance Float) ≤ ⟨7⟩ := by decide +kernel
  have negative : (⟨-1⟩ : Distance Float) < .zero := by decide +kernel
  have inside := (edit_cut_eq_edit_trim changing (ofPoint ⟨1, 1⟩ 45) ⟨6⟩ ⟨7⟩).1 forward ahead
  have whole := (edit_cut_eq_edit_trim changing (ofPoint ⟨1, 1⟩ 45) ⟨-1⟩ ⟨7⟩).2 negative
  refine ⟨changing, forward, ahead, negative, ?_, ?_⟩
  · refine (Checked.exists_of_isOk ?_).imp fun ribbon made => ⟨made, inside ▸ made⟩
    decide +kernel
  · refine (Checked.exists_of_isOk ?_).imp fun ribbon made => ⟨made, whole ▸ made⟩
    decide +kernel

end Ribbon

end RoadSketch
