import RoadSketch.Proofs.Network.Curve

/-!
# How far curves overshoot

A smooth curve may swing out beyond the gap that it bridges, as it goes straight on out of the one
path and straight on into the other. Unless it turns around it swings out by half the gap at most,
however far it is asked to go straight on.

A sample of a curve is an average of the two ends and the two handles, as it is found by going three
times the same share of the way between points. So it lies in every box that these four lie in. The
handles are at most half a gap away from the ends, up to the precision that lengths are stored in.

## Main result

`smoothCurve_around`: the box that all points of a curve lie in, over exact numbers.
-/
namespace RoadSketch

/-! ### Boxes -/

/-- The numbers that lie at most `margin` outside the interval between two others. -/
def widened (a b margin : ℝ) : Set ℝ := Set.Icc (min a b - margin) (max a b + margin)

section
variable {a b x margin : ℝ}

theorem convex_widened (a b margin : ℝ) : Convex ℝ (widened a b margin) := convex_Icc _ _

theorem widened_comm (a b margin : ℝ) : widened a b margin = widened b a margin := by
  rw [widened, widened, min_comm, max_comm]

theorem mem_widened_of_near (near : |x - a| ≤ margin) : x ∈ widened a b margin := by
  obtain ⟨above, below⟩ := abs_le.mp near
  exact ⟨by linarith [min_le_left a b], by linarith [le_max_left a b]⟩

theorem mem_widened_add {y slack : ℝ} (inside : x ∈ widened a b margin) (near : |y - x| ≤ slack) :
    y ∈ widened a b (margin + slack) := by
  obtain ⟨least, most⟩ := inside
  obtain ⟨above, below⟩ := abs_le.mp near
  exact ⟨by linarith, by linarith⟩

end

namespace Point

/-- Both coordinates of a point lie at most `margin` outside the box that two points span. -/
structure Around (start finish : Point Exact) (margin : ℝ) (p : Point Exact) : Prop where
  x : p.x.value ∈ widened start.x.value finish.x.value margin
  y : p.y.value ∈ widened start.y.value finish.y.value margin

variable {start finish p q : Point Exact} {margin : ℝ}

theorem Around.symm (around : Around start finish margin p) : Around finish start margin p :=
  ⟨widened_comm _ _ margin ▸ around.x, widened_comm _ _ margin ▸ around.y⟩

theorem around_start (nonneg : 0 ≤ margin) : Around start finish margin start :=
  ⟨mem_widened_of_near (by simpa), mem_widened_of_near (by simpa)⟩

theorem around_finish (nonneg : 0 ≤ margin) : Around start finish margin finish :=
  (around_start nonneg).symm

/-- Going from a stored point in any direction changes no coordinate by more than the distance. -/
theorem around_project (grid : start.OnGrid) {reach : Distance Exact} (stored : reach.OnGrid)
    (nonneg : 0 ≤ reach.meters.value) (short : reach.meters.value ≤ margin) {angle : Angle Exact}
    (led : start.project reach angle = .ok p) : Around start finish margin p := by
  have within (c : Exact) (unit : |c.value| ≤ 1) :
      |(reach.meters * c).value| ≤ reach.meters.value := by
    rw [Exact.value_mul, abs_mul, abs_of_nonneg nonneg]
    exact mul_le_of_le_one_right nonneg unit
  rw [project_eq_ok _ _ nonneg, Except.ok.injEq] at led
  subst led
  exact ⟨mem_widened_of_near ((grid.x.abs_trim_add_sub_le stored
      (within _ (Real.abs_cos_le_one _))).trans short),
    mem_widened_of_near ((grid.y.abs_trim_add_sub_le stored
      (within _ (Real.abs_sin_le_one _))).trans short)⟩

end Point

/-! ### Samples -/

namespace Cubic

/-- A sample is found by going the same share of the way between neighbours, three times over. -/
theorem value_blend (t a b c d : Exact) : (blend t a b c d).value =
    AffineMap.lineMap
      (AffineMap.lineMap (AffineMap.lineMap a.value b.value t.value)
        (AffineMap.lineMap b.value c.value t.value) t.value)
      (AffineMap.lineMap (AffineMap.lineMap b.value c.value t.value)
        (AffineMap.lineMap c.value d.value t.value) t.value) t.value := by
  simp only [blend, Exact.value_add, Exact.value_sub, Exact.value_mul, Exact.value_literal,
    AffineMap.lineMap_apply_ring]
  push_cast
  ring

theorem blend_mem {K : Set ℝ} (convex : Convex ℝ K) {t a b c d : Exact}
    (unit : t.value ∈ Set.Icc 0 1) (first : a.value ∈ K) (second : b.value ∈ K)
    (third : c.value ∈ K) (last : d.value ∈ K) : (blend t a b c d).value ∈ K := by
  rw [value_blend]
  have left := convex.lineMap_mem first second unit
  have middle := convex.lineMap_mem second third unit
  have right := convex.lineMap_mem third last unit
  exact convex.lineMap_mem (convex.lineMap_mem left middle unit)
    (convex.lineMap_mem middle right unit) unit

/-- A curve is in the box that its handles are in. -/
theorem around_stored {start startHandle finishHandle finish : Point Exact} {margin : ℝ}
    (nonneg : 0 ≤ margin) (first : Point.Around start finish margin startHandle)
    (last : Point.Around start finish margin finishHandle) {t : Exact}
    (unit : t.value ∈ Set.Icc 0 1) : Point.Around start finish (margin + 1 / 20000)
      ((Cubic.mk start startHandle finishHandle finish).stored t) := by
  have starts : Point.Around start finish margin start := Point.around_start nonneg
  have ends : Point.Around start finish margin finish := Point.around_finish nonneg
  constructor
  · refine mem_widened_add ?_ (Exact.abs_trim_sub_le _)
    exact blend_mem (convex_widened _ _ _) unit starts.x first.x last.x ends.x
  · refine mem_widened_add ?_ (Exact.abs_trim_sub_le _)
    exact blend_mem (convex_widened _ _ _) unit starts.y first.y last.y ends.y

/-- The points of a sampled curve are samples of it. -/
theorem exists_stored_of_sample {curve : Cubic Exact} {count : Nat} {shape : Polyline Exact}
    (sampled : curve.sample count = .ok shape) {p : Point Exact} (member : p ∈ shape.points) :
    ∃ t : Exact, t.value ∈ Set.Icc 0 1 ∧ p = curve.stored t := by
  rw [sample_eq_ok, Except.ok.injEq] at sampled
  subst sampled
  have kept := (Polyline.extend_sublist Polyline.empty (curve.samples count)).subset member
  obtain ⟨i, within, rfl⟩ := List.mem_map.mp kept
  refine ⟨_, ?_, rfl⟩
  have small : i ≤ count - 1 := Nat.le_sub_one_of_lt (List.mem_range.mp within)
  change (i : ℝ) / ((count - 1 : ℕ) : ℝ) ∈ Set.Icc 0 1
  exact ⟨by positivity, div_le_one_of_le₀ (by exact_mod_cast small) (by positivity)⟩

end Cubic

/-! ### Curves between paths -/

section
variable {α : Type} [Scalar α] {source target curve : Polyline α} {request : CurveRequest α}

/-- How a curve between two points is made: from handles of some length in the directions of the
paths, or as a straight line. -/
inductive Drawn (request : CurveRequest α) (start finish : Point α) : Polyline α → Prop
  | straight : Drawn request start finish ⟨[start, finish]⟩
  | sampled {gap startLength finishLength : Distance α} {startAngle finishAngle : Angle α}
      {startHandle finishHandle : Point α} {curve : Polyline α}
      (measured : start.distanceTo finish = .ok gap)
      (startReached : handleLength request (gap.meters / 2) request.extendStart = .ok startLength)
      (startLed : start.project startLength startAngle = .ok startHandle)
      (finishReached :
        handleLength request (gap.meters / 2) request.extendFinish = .ok finishLength)
      (finishLed : finish.project finishLength finishAngle.opposite = .ok finishHandle)
      (made : (Cubic.mk start startHandle finishHandle finish).sample request.points = .ok curve) :
      Drawn request start finish curve

/-- All that a smooth curve can be. Without a point at one of its ends there is nothing to draw. -/
theorem drawn_of_smoothCurve (made : smoothCurve source target request = .ok curve) :
    curve = .empty ∨ ∃ start finish, source.last? = some start ∧ target.first? = some finish ∧
      Drawn request start finish curve := by
  unfold smoothCurve at made
  split at made
  next start finish starts ends =>
    refine .inr ⟨start, finish, starts, ends, ?_⟩
    simp only [Checked.bind_eq_ok] at made
    obtain ⟨total, _, startAngle?, _, finishAngle?, _, made⟩ := made
    split at made
    next startAngle finishAngle =>
      split at made
      next few =>
        cases made
        exact .straight
      next many =>
        simp only [Checked.bind_eq_ok] at made
        obtain ⟨gap, measured, startLength, startReached, startHandle, startLed, finishLength,
          finishReached, finishHandle, finishLed, made⟩ := made
        exact .sampled measured startReached startLed finishReached finishLed made
    next =>
      cases made
      exact .straight
  next =>
    cases made
    exact .inl rfl

end

section
variable {request : CurveRequest Exact} {start finish handle : Point Exact}

/-- Without a turnaround, a handle is at most half the gap long, as far as lengths are stored. -/
theorem handleLength_le (onward : request.isTurnaround = false) {halfGap extension : Exact}
    (nonneg : 0 ≤ halfGap.value) {length : Distance Exact}
    (reached : handleLength request halfGap extension = .ok length) :
    length.OnGrid ∧ 0 ≤ length.meters.value ∧ length.meters.value ≤ halfGap.value + 1 / 20000 := by
  rw [handleLength, onward, if_neg Bool.false_ne_true, Distance.ofMeters_eq_ok,
    Except.ok.injEq] at reached
  subst reached
  have zero : (0 : Exact).value = 0 := by simp
  have exact := Exact.value_greater (Scalar.lesser extension halfGap) 0
  rw [Exact.value_lesser, zero] at exact
  have least : 0 ≤ max (min extension.value halfGap.value) 0 := le_max_right _ _
  have most : max (min extension.value halfGap.value) 0 ≤ halfGap.value :=
    max_le (min_le_right _ _) nonneg
  have rounded := abs_le.mp
    (Exact.abs_trim_sub_le (Scalar.greater (Scalar.lesser extension halfGap) 0))
  rw [exact] at rounded
  refine ⟨Exact.onGrid_trim _, Exact.trim_nonneg ?_, ?_⟩
  · rw [exact]
    exact least
  · linarith [rounded.2]

theorem around_handle (onward : request.isTurnaround = false) (grid : start.OnGrid)
    {halfGap extension : Exact} (nonneg : 0 ≤ halfGap.value) {length : Distance Exact}
    (reached : handleLength request halfGap extension = .ok length) {angle : Angle Exact}
    (led : start.project length angle = .ok handle) :
    Point.Around start finish (halfGap.value + 1 / 20000) handle := by
  obtain ⟨stored, forward, short⟩ := handleLength_le onward nonneg reached
  exact Point.around_project grid stored forward short led

/-- A curve that is drawn from one point to another without turning around stays around them. -/
theorem Drawn.around (onward : request.isTurnaround = false) (startGrid : start.OnGrid)
    (finishGrid : finish.OnGrid) {curve : Polyline Exact}
    (drawn : Drawn request start finish curve) :
    ∃ gap, start.distanceTo finish = .ok gap ∧ ∀ p ∈ curve.points,
      Point.Around start finish (gap.meters.value / 2 + 1 / 10000) p := by
  obtain ⟨gap, length, nonneg⟩ : ∃ gap, start.distanceTo finish = .ok gap ∧ 0 ≤ gap.meters.value :=
    ⟨_, (Line.mk start finish).length_eq_ok, (Line.mk start finish).storedLength_nonneg⟩
  refine ⟨gap, length, fun p member => ?_⟩
  cases drawn with
  | straight =>
    rcases List.mem_pair.mp member with rfl | rfl
    · exact Point.around_start (by linarith)
    · exact Point.around_finish (by linarith)
  | sampled measured startReached startLed finishReached finishLed made =>
    obtain rfl := Except.ok.inj (length.symm.trans measured)
    have half : (gap.meters / 2).value = gap.meters.value / 2 := by simp
    have halfNonneg : 0 ≤ (gap.meters / 2).value := by
      rw [half]
      linarith
    -- One half step is lost with the length of the handles, and one with the sample itself.
    have margin : gap.meters.value / 2 + 1 / 10000 =
        (gap.meters / 2).value + 1 / 20000 + 1 / 20000 := by
      rw [half]
      ring
    obtain ⟨t, unit, rfl⟩ := Cubic.exists_stored_of_sample made member
    rw [margin]
    apply Cubic.around_stored _ _ _ unit
    · linarith
    · exact around_handle onward startGrid halfNonneg startReached startLed
    · exact (around_handle onward finishGrid halfNonneg finishReached finishLed).symm

end

/-- Between paths in the stored precision there is always a curve, if only one without points. -/
theorem exists_smoothCurve_of_onGrid {source target : Polyline Exact}
    (left : ∀ p ∈ source.points, p.OnGrid) (entered : ∀ p ∈ target.points, p.OnGrid)
    (request : CurveRequest Exact) : ∃ curve, smoothCurve source target request = .ok curve := by
  cases starts : source.last? with
  | none => exact ⟨.empty, by simp [smoothCurve, starts]⟩
  | some start =>
    cases ends : target.first? with
    | none => exact ⟨.empty, by simp [smoothCurve, ends]⟩
    | some finish =>
      have present := List.ne_nil_of_mem (List.mem_of_getLast? starts)
      have there := List.ne_nil_of_mem (List.mem_of_head? ends)
      exact (exists_smoothCurve ⟨present, left⟩ ⟨there, entered⟩ request).imp fun _ curve => curve.1

/-! ### Main result -/

/-- Between paths in the stored precision there is always a curve. If it does not turn around, every
point of it lies in the box that the two ends span, widened on all sides by half the distance of the
ends and a ten-thousandth of a meter, however far the curve is to go straight on. -/
theorem smoothCurve_around {source target : Polyline Exact} (left : ∀ p ∈ source.points, p.OnGrid)
    (entered : ∀ p ∈ target.points, p.OnGrid) {request : CurveRequest Exact}
    (onward : request.isTurnaround = false) :
    ∃ curve, smoothCurve source target request = .ok curve ∧ ∀ p ∈ curve.points,
      ∃ start finish gap, source.last? = some start ∧ target.first? = some finish ∧
        start.distanceTo finish = .ok gap ∧
        Point.Around start finish (gap.meters.value / 2 + 1 / 10000) p := by
  obtain ⟨curve, made⟩ := exists_smoothCurve_of_onGrid left entered request
  refine ⟨curve, made, fun p member => ?_⟩
  rcases drawn_of_smoothCurve made with rfl | ⟨start, finish, starts, ends, drawn⟩
  · cases member
  · have startGrid := left start (List.mem_of_getLast? starts)
    have finishGrid := entered finish (List.mem_of_head? ends)
    obtain ⟨gap, measured, around⟩ := drawn.around onward startGrid finishGrid
    exact ⟨start, finish, gap, starts, ends, measured, around p member⟩

/-- The curve of a left turn that is asked to go straight on for a kilometer. -/
theorem smoothCurve_around_of_leftTurn :
    (∀ p ∈ [(⟨0, 0⟩ : Point Exact), ⟨10, 0⟩], p.OnGrid) ∧
    (∀ p ∈ [(⟨20, 10⟩ : Point Exact), ⟨20, 30⟩], p.OnGrid) ∧
    (⟨5, false, 1000, -3⟩ : CurveRequest Exact).isTurnaround = false ∧
    ∃ curve, smoothCurve ⟨[⟨0, 0⟩, ⟨10, 0⟩]⟩ ⟨[⟨20, 10⟩, ⟨20, 30⟩]⟩
        (⟨5, false, 1000, -3⟩ : CurveRequest Exact) = .ok curve ∧
      ∀ p ∈ curve.points, ∃ gap, (⟨10, 0⟩ : Point Exact).distanceTo ⟨20, 10⟩ = .ok gap ∧
        Point.Around ⟨10, 0⟩ ⟨20, 10⟩ (gap.meters.value / 2 + 1 / 10000) p := by
  have path (i j m n : Nat) : ∀ p ∈ [(⟨Scalar.ofNat i, Scalar.ofNat j⟩ : Point Exact),
      ⟨Scalar.ofNat m, Scalar.ofNat n⟩], p.OnGrid := by
    intro p member
    rcases List.mem_pair.mp member with rfl | rfl <;>
      exact ⟨Exact.onGrid_ofNat _, Exact.onGrid_ofNat _⟩
  have left := path 0 0 10 0
  have entered := path 20 10 20 30
  have onward : (⟨5, false, 1000, -3⟩ : CurveRequest Exact).isTurnaround = false := rfl
  obtain ⟨curve, made, bounded⟩ := @smoothCurve_around ⟨_⟩ ⟨_⟩ left entered _ onward
  refine ⟨left, entered, onward, curve, made, fun p member => ?_⟩
  obtain ⟨start, finish, gap, starts, ends, measured, around⟩ := bounded p member
  cases starts
  cases ends
  exact ⟨gap, measured, around⟩

end RoadSketch
