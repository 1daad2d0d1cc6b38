import RoadSketch.Contour
import RoadSketch.Network.Curve
import RoadSketch.Proofs.Checked
import RoadSketch.Proofs.Dash.Connectors
import RoadSketch.Ribbon.Basic

/-!
# Faults of geometry

With which faults an operation may stop. The geometry of points, polylines, ribbons, dashed lines
and curves looks nothing up by an index or a name, so it stops with a fault about its numbers or not
at all. Every operation has such faults only because the operations it is put together from do.
-/
namespace RoadSketch

namespace Checked

section
variable {ε β γ : Type} {kind : ε → Prop}

/-- Stops, if at all, with a fault of some kind. -/
structure FailsOnly (kind : ε → Prop) (x : Except ε β) : Prop where
  known : ∀ fault, x = .error fault → kind fault

theorem failsOnly_ok (b : β) : FailsOnly kind (Except.ok b) := ⟨fun _ failed => nomatch failed⟩

theorem failsOnly_of_eq {x : Except ε β} {b : β} (result : x = .ok b) : FailsOnly kind x := by
  rw [result]
  exact failsOnly_ok b

theorem failsOnly_error {fault : ε} (known : kind fault) :
    FailsOnly kind (Except.error fault : Except ε β) := by
  refine ⟨fun other failed => ?_⟩
  cases failed
  exact known

/-- What follows only has to be known for the results there are. -/
theorem FailsOnly.bind {x : Except ε β} {f : β → Except ε γ} (first : FailsOnly kind x)
    (next : ∀ b, x = .ok b → FailsOnly kind (f b)) : FailsOnly kind (x >>= f) := by
  cases x with
  | error fault => exact failsOnly_error (first.known fault rfl)
  | ok b => exact next b rfl

theorem FailsOnly.mapM {f : β → Except ε γ} {xs : List β}
    (each : ∀ x ∈ xs, FailsOnly kind (f x)) : FailsOnly kind (xs.mapM f) := by
  induction xs with
  | nil => exact failsOnly_ok _
  | cons x xs ih =>
    rw [List.mapM_cons]
    refine (each x List.mem_cons_self).bind fun y _ => ?_
    exact (ih fun x member => each x (List.mem_cons_of_mem _ member)).bind
      fun ys _ => failsOnly_ok _

theorem FailsOnly.foldlM {step : γ → β → Except ε γ} {xs : List β} {start : γ}
    (each : ∀ c, ∀ x ∈ xs, FailsOnly kind (step c x)) : FailsOnly kind (xs.foldlM step start) := by
  induction xs generalizing start with
  | nil => exact failsOnly_ok _
  | cons x xs ih =>
    rw [List.foldlM_cons]
    refine (each start x List.mem_cons_self).bind fun next _ => ?_
    exact ih fun c x member => each c x (List.mem_cons_of_mem _ member)

/-- What never fails has a result. -/
theorem FailsOnly.exists_ok {x : Except ε β} (never : FailsOnly (fun _ => False) x) :
    ∃ b, x = .ok b := by
  cases x with
  | error fault => exact (never.known fault rfl).elim
  | ok b => exact ⟨b, rfl⟩

end

end Checked

open Checked

variable {α : Type} [Scalar α]

/-- A distance that points are moved away by: how wide something is, or how far something goes on. -/
def Distance.IsReach (distance : Distance α) : Prop :=
  ∃ x, Distance.ofMeters (Scalar.abs x) = .ok distance ∨
    Distance.ofMeters (Scalar.greater x 0) = .ok distance

/-- A fault about numbers, which really are as it says. All others are about something that is not
there, about colors, or about what only some callers check. -/
def Fault.IsGeometric : Fault α → Prop
  | .badPoint x y => ¬(Scalar.isFinite x && Scalar.isFinite y)
  | .badDistance meters => ¬Scalar.isFinite meters
  -- Only long lines are divided, into a fixed count of dashes.
  | .zeroDivisor _ divisor => divisor = 250 ∧ divisor == 0
  | .negativeReach => ∃ distance : Distance α, distance.IsReach ∧ ¬Distance.zero ≤ distance
  | _ => False

/-- Stops, if at all, with a fault about numbers. -/
abbrev Checked.IsGeometric {β : Type} (x : Checked α β) : Prop := FailsOnly Fault.IsGeometric x

theorem Checked.ne_missingItem {β : Type} {x : Checked α β} (geometric : IsGeometric x) :
    x ≠ .error .missingItem := fun missing => geometric.known _ missing

/-! ### Points and segments -/

theorem Distance.ofMeters_eq_ok_iff {x : α} {distance : Distance α} :
    ofMeters x = .ok distance ↔ Scalar.isFinite x ∧ distance = ⟨Scalar.trim x⟩ := by
  unfold ofMeters
  split
  next finite => simp [finite, eq_comm]
  next infinite => simp [infinite]

theorem Distance.isGeometric_ofMeters (x : α) : IsGeometric (ofMeters x) := by
  unfold ofMeters
  split
  · exact failsOnly_ok _
  next infinite => exact failsOnly_error infinite

theorem Distance.isGeometric_divide (a : Distance α) : IsGeometric (a.divide 250) := by
  unfold divide
  split
  next zero => exact failsOnly_error ⟨rfl, zero⟩
  · exact isGeometric_ofMeters _

namespace Point

theorem ofCoordinates_eq_ok_iff {x y : α} {p : Point α} : ofCoordinates x y = .ok p ↔
    (Scalar.isFinite x ∧ Scalar.isFinite y) ∧ p = ⟨Scalar.trim x, Scalar.trim y⟩ := by
  unfold ofCoordinates
  split
  next finite => simp [Bool.and_eq_true_iff.mp finite, eq_comm]
  next infinite => simp [← Bool.and_eq_true_iff, infinite]

theorem isGeometric_ofCoordinates (x y : α) : IsGeometric (ofCoordinates x y) := by
  unfold ofCoordinates
  split
  · exact failsOnly_ok _
  next infinite => exact failsOnly_error infinite

theorem isGeometric_project (p : Point α) {distance : Distance α} (reach : distance.IsReach)
    (angle : Angle α) : IsGeometric (p.project distance angle) := by
  unfold project
  split
  · exact isGeometric_ofCoordinates _ _
  next negative => exact failsOnly_error ⟨distance, reach, negative⟩

theorem isGeometric_distanceTo (p q : Point α) : IsGeometric (p.distanceTo q) :=
  Distance.isGeometric_ofMeters _

end Point

namespace Line

theorem isGeometric_length (line : Line α) : IsGeometric line.length :=
  line.start.isGeometric_distanceTo line.finish

theorem isGeometric_pointAtShare (line : Line α) (share : α) :
    IsGeometric (line.pointAtShare share) := Point.isGeometric_ofCoordinates _ _

theorem isGeometric_shift (line : Line α) (width : α) : IsGeometric (line.shift width) := by
  refine (Distance.isGeometric_ofMeters _).bind fun distance kept => ?_
  have reach : distance.IsReach := ⟨width, .inl kept⟩
  refine (line.start.isGeometric_project reach _).bind fun start _ => ?_
  exact (line.finish.isGeometric_project reach _).bind fun finish _ => failsOnly_ok _

theorem isGeometric_intersection (l m : Line α) : IsGeometric (l.intersection m) := by
  refine l.isGeometric_length.bind fun length _ => ?_
  refine m.isGeometric_length.bind fun otherLength _ => ?_
  dsimp only
  split
  · exact failsOnly_ok _
  · exact (Point.isGeometric_ofCoordinates _ _).bind fun p _ => failsOnly_ok _

end Line

/-! ### Polylines and ribbons -/

/-- Angles are taken into one turn before the point is looked up. -/
theorem nearestStep_lt (degrees : α) : nearestStep degrees < turnSteps := by
  unfold nearestStep turnSteps
  omega

namespace Polyline

theorem isGeometric_length (shape : Polyline α) : IsGeometric shape.length :=
  Distance.isGeometric_ofMeters _

theorem isGeometric_lengths (shape : Polyline α) : IsGeometric shape.lengths :=
  .mapM fun line _ => line.isGeometric_length

theorem isGeometric_locateAmong (start : Point α) (distance seen : α) (last : Option (Line α))
    (lines : List (Line α)) : IsGeometric (locateAmong start distance seen last lines) := by
  induction lines generalizing seen last with
  | nil => cases last <;> exact failsOnly_ok _
  | cons line rest ih =>
    rw [locateAmong]
    split
    · exact ih seen last
    · split
      · exact (line.isGeometric_pointAtShare _).bind fun p _ => failsOnly_ok _
      · exact ih _ _

theorem isGeometric_locate? (shape : Polyline α) (distance : α) :
    IsGeometric (shape.locate? distance) := by
  unfold locate?
  split
  · exact failsOnly_ok _
  · exact (isGeometric_locateAmong ..).bind fun location _ => failsOnly_ok _

theorem isGeometric_directionAt? (shape : Polyline α) (distance : Distance α) :
    IsGeometric (shape.directionAt? distance) :=
  (shape.isGeometric_locate? _).bind fun _ _ => failsOnly_ok _

theorem isGeometric_resample (shape : Polyline α) (step : Distance α) (keepEnd : Bool) :
    IsGeometric (shape.resample step keepEnd) := by
  unfold resample
  split
  · exact failsOnly_ok _
  · dsimp only
    split
    · exact failsOnly_ok _
    · refine FailsOnly.bind (.mapM fun i _ => shape.isGeometric_locate? _) fun locations _ => ?_
      split <;> exact failsOnly_ok _

theorem isGeometric_corner (earlier later : Line α) : IsGeometric (corner earlier later) :=
  (earlier.isGeometric_intersection later).bind fun _ _ => failsOnly_ok _

theorem isGeometric_shift (shape : Polyline α) (width : α) : IsGeometric (shape.shift width) := by
  unfold shift
  dsimp only
  split
  · exact failsOnly_ok _
  · refine FailsOnly.bind (.mapM fun line _ => line.isGeometric_shift width) fun lines _ => ?_
    split
    · exact FailsOnly.bind (.mapM fun pair _ => isGeometric_corner pair.1 pair.2)
        fun corners _ => failsOnly_ok _
    · exact failsOnly_ok _

theorem isGeometric_centroid? (shape : Polyline α) : IsGeometric shape.centroid? := by
  unfold centroid?
  split
  · exact failsOnly_ok _
  · extract_lets ring
    clear_value ring
    split
    · exact (Point.isGeometric_ofCoordinates _ _).bind fun _ _ => failsOnly_ok _
    · split
      · exact failsOnly_ok _
      · exact (Point.isGeometric_ofCoordinates _ _).bind fun _ _ => failsOnly_ok _

theorem isGeometric_scale (shape : Polyline α) (factor : α) : IsGeometric (shape.scale factor) := by
  refine shape.isGeometric_centroid?.bind fun center? _ => ?_
  cases center? with
  | none => exact failsOnly_ok _
  | some center =>
    exact FailsOnly.bind (.mapM fun p _ => Point.isGeometric_ofCoordinates _ _)
      fun _ _ => failsOnly_ok _

theorem isGeometric_unitPoint (degrees : α) :
    IsGeometric (unitPoint (nearestStep degrees) : Checked α (α × α)) := by
  rw [unitPoint, if_pos (Nat.le_of_lt (nearestStep_lt degrees))]
  exact failsOnly_ok _

theorem isGeometric_ring (center : Point α) (radius : α) (sides : Nat) :
    IsGeometric (ring center radius sides) := by
  unfold ring
  split
  · exact failsOnly_ok _
  · refine FailsOnly.bind (.mapM fun i _ => ?_) fun points _ => failsOnly_ok _
    exact (isGeometric_unitPoint _).bind fun p _ => Point.isGeometric_ofCoordinates _ _

end Polyline

theorem Ribbon.isGeometric_ofShape (shape : Polyline α) : IsGeometric (ofShape shape) :=
  shape.isGeometric_lengths.bind fun _ _ => failsOnly_ok _

/-! ### Dashed lines and outlines of paths -/

namespace DashRun

theorem isGeometric_ofShape (shape : Polyline α) (offset : Int) :
    IsGeometric (ofShape shape offset) :=
  shape.isGeometric_lengths.bind fun _ _ => failsOnly_ok _

theorem isGeometric_between (start finish : Point α) (step : Distance α) (offset : Int) :
    IsGeometric (between start finish step offset) :=
  (Polyline.isGeometric_resample _ step true).bind fun shape _ => isGeometric_ofShape shape offset

theorem isGeometric_shift (run : DashRun α) (width : α) : IsGeometric (run.shift width) :=
  (run.shape.isGeometric_shift width).bind fun shape _ => isGeometric_ofShape shape run.offset

end DashRun

namespace DashedLine

theorem isGeometric_dashLength (settings : Settings α) (length : Distance α) :
    IsGeometric (dashLength settings length) := by
  refine (Distance.isGeometric_ofMeters _).bind fun greatest _ => ?_
  split
  · exact length.isGeometric_divide
  · exact Distance.isGeometric_ofMeters _

theorem isGeometric_ofSegments (settings : Settings α) (shape : Polyline α) (step : Distance α) :
    IsGeometric (ofSegments settings shape step) :=
  FailsOnly.bind (.mapM fun line _ => DashRun.isGeometric_between line.start line.finish step (-1))
    fun _ _ => failsOnly_ok _

theorem isGeometric_ofShape (settings : Settings α) (shape : Polyline α) (close : Bool) :
    IsGeometric (ofShape settings shape close) := by
  refine (Polyline.isGeometric_length _).bind fun length _ => ?_
  refine (isGeometric_dashLength settings length).bind fun step _ => ?_
  exact isGeometric_ofSegments settings _ step

theorem isGeometric_shift (line : DashedLine α) (width : α) : IsGeometric (line.shift width) :=
  FailsOnly.bind (.mapM fun run _ => run.isGeometric_shift width) fun _ _ => failsOnly_ok _

theorem isGeometric_connector? (start finish : Option (Point α)) (step : Distance α)
    (offset : Int) : IsGeometric (connector? start finish step offset) := by
  unfold connector?
  split
  · exact (DashRun.isGeometric_between ..).bind fun _ _ => failsOnly_ok _
  · exact failsOnly_ok _

theorem isGeometric_wanted (join : Bool) (start finish : Option (Point α)) (step : Distance α)
    (offset : Int) : IsGeometric (wanted join start finish step offset) := by
  unfold wanted
  split
  · exact isGeometric_connector? ..
  · exact failsOnly_ok _

theorem isGeometric_connectors (settings : Settings α) (top bottom : DashedLine α)
    (joinStarts joinEnds : Bool) :
    IsGeometric (connectors settings top joinStarts bottom joinEnds) := by
  rw [connectors_eq]
  refine (Distance.isGeometric_ofMeters _).bind fun step _ => ?_
  refine (isGeometric_wanted ..).bind fun starts _ => ?_
  exact (isGeometric_wanted ..).bind fun ends _ => failsOnly_ok _

end DashedLine

theorem Contour.isGeometric_path (kind : OutlineKind) (settings : Settings α) (shape : Polyline α)
    (width exaggeration : α) (joinStarts joinEnds : Bool) (lineWidth : Option α) :
    IsGeometric (path kind settings shape width exaggeration joinStarts joinEnds lineWidth) := by
  refine (DashedLine.isGeometric_ofShape settings shape false).bind fun center _ => ?_
  refine (center.isGeometric_shift _).bind fun top _ => ?_
  refine (center.isGeometric_shift _).bind fun bottom _ => ?_
  exact (DashedLine.isGeometric_connectors ..).bind fun _ _ => failsOnly_ok _

theorem Contour.isGeometric_closedShape (kind : OutlineKind) (settings : Settings α)
    (shape : Polyline α) (exaggeration : α) (lineWidth : Option α) :
    IsGeometric (closedShape kind settings shape exaggeration lineWidth) := by
  unfold closedShape
  split
  · exact failsOnly_ok _
  · refine (shape.isGeometric_scale exaggeration).bind fun scaled _ => ?_
    exact (DashedLine.isGeometric_ofShape settings scaled true).bind fun _ _ => failsOnly_ok _

/-! ### Smooth curves -/

theorem Cubic.isGeometric_sample (curve : Cubic α) (count : Nat) :
    IsGeometric (curve.sample count) :=
  FailsOnly.bind (.mapM fun _ _ => Point.isGeometric_ofCoordinates _ _) fun _ _ => failsOnly_ok _

theorem isGeometric_smoothCurve (source target : Polyline α) (request : CurveRequest α) :
    IsGeometric (smoothCurve source target request) := by
  unfold smoothCurve
  split
  next start finish _ _ =>
    refine source.isGeometric_length.bind fun length _ => ?_
    refine (source.isGeometric_directionAt? length).bind fun startAngle? _ => ?_
    refine (target.isGeometric_directionAt? .zero).bind fun finishAngle? _ => ?_
    split
    · split
      · exact failsOnly_ok _
      · refine (start.isGeometric_distanceTo finish).bind fun gap _ => ?_
        refine (Distance.isGeometric_ofMeters _).bind fun startLength kept => ?_
        refine (start.isGeometric_project ⟨_, .inr kept⟩ _).bind fun startHandle _ => ?_
        refine (Distance.isGeometric_ofMeters _).bind fun finishLength kept => ?_
        refine (finish.isGeometric_project ⟨_, .inr kept⟩ _).bind fun finishHandle _ => ?_
        exact Cubic.isGeometric_sample _ _
    · exact failsOnly_ok _
  · exact failsOnly_ok _

end RoadSketch
