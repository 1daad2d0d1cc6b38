import RoadSketch.Proofs.Double
import RoadSketch.Proofs.Polyline.Total
import RoadSketch.Proofs.Ribbon.Coherence

/-!
# Repeated scaling

Scaling a ribbon step by step is scaling it once, by the product of the factors. What is rounded in
between is not built upon: every scaling starts over from the state before the first, which nothing
but a change of another kind replaces. So factors that cancel out restore the ribbon.

## Main result

`scales_eq_scale_product`: a run of scalings against a single one, over doubles and over exact
numbers.
-/
namespace RoadSketch.Ribbon

section
variable {α : Type} [Scalar α]

theorem Fresh.unscaled {ribbon : Ribbon α} (fresh : ribbon.Fresh) : ribbon.unscaled = none := by
  cases fresh <;> rfl

/-- After every change but scaling, no scaling is remembered. -/
theorem unscaled_of_edit {ribbon changed : Ribbon α} {change : Edit α} (other : ¬change.isScale)
    (made : ribbon.edit change = .ok changed) : changed.unscaled = none :=
  (fresh_edit other made).unscaled

theorem baseline_of_unscaled {ribbon : Ribbon α} (settled : ribbon.unscaled = none) :
    ribbon.baseline = ⟨ribbon.shape, ribbon.lengths, 1⟩ := by
  rw [baseline, settled, Option.getD_none]

theorem edits_cons (ribbon : Ribbon α) (change : Edit α) (changes : List (Edit α)) :
    ribbon.edits (change :: changes) = ribbon.edit change >>= fun next => next.edits changes :=
  List.foldlM_cons ..

theorem bearings_of_scale {ribbon scaled : Ribbon α} {factor : α}
    (grown : ribbon.scale factor = .ok scaled) : scaled.bearings = ribbon.bearings :=
  (scale_keeps_counts grown).1

variable {ribbon scaled : Ribbon α} (one_mul : ∀ x : α, 1 * x = x)

include one_mul in
/-- A second scaling does what a single one by the product would have done. -/
theorem scale_scale {first next : α} (settled : ribbon.unscaled = none)
    (grown : ribbon.scale first = .ok scaled) :
    scaled.scale next = ribbon.scale (first * next) := by
  have remembered := baseline_of_unscaled settled
  have sameBearings := bearings_of_scale grown
  simp only [scale, Checked.bind_eq_ok, Checked.pure_eq_ok, remembered, one_mul] at grown
  obtain ⟨shape, _, lengths, _, grown⟩ := grown
  have carried : scaled.baseline = ⟨ribbon.shape, ribbon.lengths, first⟩ := by
    rw [← grown]
    rfl
  simp only [scale, carried, remembered, sameBearings, one_mul]

include one_mul in
/-- Where a run of scalings has a result, a single one by the product of its factors has it too. -/
theorem scale_product {first : α} {rest : List α} (settled : ribbon.unscaled = none)
    (run : ribbon.edits ((first :: rest).map .scale) = .ok scaled) :
    ribbon.scale (rest.foldl (· * ·) first) = .ok scaled := by
  -- The first two factors are taken together until one is left.
  induction rest generalizing first with
  | nil =>
    simp only [List.map_cons, List.map_nil, edits_cons, Checked.bind_eq_ok] at run
    obtain ⟨_, grown, ended⟩ := run
    cases ended
    exact grown
  | cons next rest ih =>
    rw [List.foldl_cons]
    apply ih
    simp only [List.map_cons, edits_cons, Checked.bind_eq_ok] at run ⊢
    obtain ⟨middle, grown, further, again, ended⟩ := run
    have once : ribbon.scale (first * next) = .ok further := by
      rw [← scale_scale one_mul settled grown]
      exact again
    exact ⟨further, once, ended⟩

end

/-! ### Exact numbers -/

/-- A ribbon with points and lengths in the stored precision. -/
structure OnGrid (ribbon : Ribbon Exact) : Prop where
  points : ∀ p ∈ ribbon.shape.points, p.OnGrid
  lengths : ∀ length ∈ ribbon.lengths, length.OnGrid

theorem exists_scale (ribbon : Ribbon Exact) (factor : Exact) :
    ∃ scaled, ribbon.scale factor = .ok scaled := by
  obtain ⟨shape, moved⟩ := ribbon.baseline.shape.exists_scale (ribbon.baseline.factor * factor)
  obtain ⟨lengths, stretched⟩ := Checked.exists_mapM ribbon.baseline.lengths
    fun length => ⟨_, length.scale_eq_ok (ribbon.baseline.factor * factor)⟩
  simp only [scale, moved, stretched, Checked.ok_bind]
  exact ⟨_, rfl⟩

theorem exists_scales (ribbon : Ribbon Exact) (factors : List Exact) :
    ∃ scaled, ribbon.edits (factors.map .scale) = .ok scaled := by
  induction factors generalizing ribbon with
  | nil => exact ⟨ribbon, rfl⟩
  | cons factor rest ih =>
    obtain ⟨middle, grown⟩ := ribbon.exists_scale factor
    obtain ⟨scaled, run⟩ := ih middle
    refine ⟨scaled, ?_⟩
    rw [List.map_cons, edits_cons, edit, grown, Checked.ok_bind, run]

/-- Scaling by one leaves a stored ribbon as it is, apart from what it remembers. -/
theorem OnGrid.scale_one {ribbon : Ribbon Exact} (grid : ribbon.OnGrid)
    (settled : ribbon.unscaled = none) :
    ribbon.scale 1 = .ok { ribbon with unscaled := some ⟨ribbon.shape, ribbon.lengths, 1⟩ } := by
  have kept : ∀ length ∈ ribbon.lengths, length.scale 1 = .ok (id length) := by
    intro length member
    rw [Distance.scale, Exact.mul_one]
    exact Distance.ofMeters_of_onGrid (grid.lengths length member)
  simp only [scale, baseline_of_unscaled settled, Exact.one_mul, Polyline.scale_one grid.points,
    Checked.mapM_eq_map kept, List.map_id, Checked.ok_bind]
  rfl

/-! ### Main result -/

/-- Scaling by one factor after another is scaling once by their product, taken from the left, and
keeps the bearings. Over exact numbers both always have a result, and if the product is one then
stored points and lengths come back as they were. -/
theorem scales_eq_scale_product :
    (∀ (ribbon scaled : Ribbon Float) (first : Float) (rest : List Float),
      ribbon.unscaled = none → ribbon.edits ((first :: rest).map .scale) = .ok scaled →
        ribbon.scale (rest.foldl (· * ·) first) = .ok scaled ∧
        scaled.bearings = ribbon.bearings) ∧
    (∀ (ribbon : Ribbon Exact) (first : Exact) (rest : List Exact), ribbon.unscaled = none →
      ∃ scaled, ribbon.edits ((first :: rest).map .scale) = .ok scaled ∧
        ribbon.scale (rest.foldl (· * ·) first) = .ok scaled ∧
        scaled.bearings = ribbon.bearings ∧
        (ribbon.OnGrid → rest.foldl (· * ·) first = 1 →
          scaled.shape = ribbon.shape ∧ scaled.lengths = ribbon.lengths)) := by
  constructor
  · intro ribbon scaled first rest settled run
    have once := scale_product Double.one_mul settled run
    exact ⟨once, bearings_of_scale once⟩
  · intro ribbon first rest settled
    obtain ⟨scaled, run⟩ := ribbon.exists_scales (first :: rest)
    have once := scale_product Exact.one_mul settled run
    refine ⟨scaled, run, once, bearings_of_scale once, fun grid cancel => ?_⟩
    rw [cancel, grid.scale_one settled] at once
    cases once
    exact ⟨rfl, rfl⟩

/-- Shrinking by a thousand leaves little of a short path; growing by a thousand restores it. -/
theorem scales_eq_scale_product_of_roundTrip :
    (∃ ribbon scaled : Ribbon Float,
      empty.edit (.redraw ⟨[⟨0, 0⟩, ⟨1.2345, 0⟩, ⟨1.2345, 3⟩]⟩) = .ok ribbon ∧
      ribbon.edits [.scale 0.001, .scale 1000] = .ok scaled ∧
      ribbon.scale (0.001 * 1000) = .ok scaled ∧ scaled.bearings = ribbon.bearings) ∧
    ∃ scaled, (⟨⟨[⟨0, 0⟩, ⟨12345 / 10000, 0⟩]⟩, [90], [⟨12345 / 10000⟩], none⟩ :
        Ribbon Exact).edits [.scale (1 / 1000), .scale 1000] = .ok scaled ∧
      scaled.shape = ⟨[⟨0, 0⟩, ⟨12345 / 10000, 0⟩]⟩ ∧ scaled.lengths = [⟨12345 / 10000⟩] := by
  constructor
  · have runs : (empty.edit (.redraw ⟨[⟨0, 0⟩, ⟨1.2345, 0⟩, ⟨1.2345, 3⟩]⟩) >>= fun ribbon =>
        ribbon.edits [.scale 0.001, .scale 1000] : Checked Float _).isOk = true := by
      decide +kernel
    obtain ⟨scaled, run⟩ := Checked.exists_of_isOk runs
    obtain ⟨ribbon, drawn, run⟩ := Checked.bind_eq_ok.mp run
    have settled := unscaled_of_edit (by decide) drawn
    have once := scales_eq_scale_product.1 ribbon scaled 0.001 [1000] settled run
    exact ⟨ribbon, scaled, drawn, run, once⟩
  · obtain ⟨scaled, run, _, _, restored⟩ := scales_eq_scale_product.2
      ⟨⟨[⟨0, 0⟩, ⟨12345 / 10000, 0⟩]⟩, [90], [⟨12345 / 10000⟩], none⟩ (1 / 1000) [1000] rfl
    refine ⟨scaled, run, restored ⟨?_, ?_⟩ ?_⟩
    · have zero : (0 : Exact).OnGrid := ⟨0, by simp⟩
      have width : (12345 / 10000 : Exact).OnGrid := ⟨12345, by simp⟩
      intro p member
      rcases List.mem_pair.mp member with rfl | rfl
      · exact ⟨zero, zero⟩
      · exact ⟨width, zero⟩
    · intro length member
      rw [List.mem_singleton.mp member]
      exact ⟨12345, by simp⟩
    · ext
      simp

end RoadSketch.Ribbon
