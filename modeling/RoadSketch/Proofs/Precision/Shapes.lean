import RoadSketch.Dash.Line
import RoadSketch.Network.Connection
import RoadSketch.Polyline.Ring
import RoadSketch.Proofs.Dash.Connectors
import RoadSketch.Proofs.Faults
import RoadSketch.Proofs.Segments

/-!
# The precision of results

Coordinates and distances are stored in some precision. Whatever an operation makes of stored
numbers is stored too, as far as it has a result: new numbers are trimmed, and all others are taken
over. So a property that trimming establishes is a property of everything that is put together by
operations.
-/
namespace RoadSketch

namespace Checked

section
variable {ε β γ : Type} {post : β → Prop} {post' : γ → Prop}

/-- The result, if there is one, has some property. -/
def Yields (post : β → Prop) (x : Except ε β) : Prop := ∀ b, x = .ok b → post b

theorem yields_ok {b : β} (known : post b) : Yields post (Except.ok b : Except ε β) := by
  rintro _ ⟨⟩
  exact known

theorem yields_error (fault : ε) : Yields post (Except.error fault : Except ε β) := nofun

theorem Yields.bind {x : Except ε β} {f : β → Except ε γ} (first : Yields post x)
    (next : ∀ b, post b → Yields post' (f b)) : Yields post' (x >>= f) := by
  intro c result
  obtain ⟨b, found, result⟩ := bind_eq_ok.mp result
  exact next b (first b found) c result

/-- What follows may not depend on the property of the first result. -/
theorem yields_bind {x : Except ε β} {f : β → Except ε γ} (next : ∀ b, Yields post' (f b)) :
    Yields post' (x >>= f) := by
  intro c result
  obtain ⟨b, _, result⟩ := bind_eq_ok.mp result
  exact next b c result

theorem Yields.mapM {f : β → Except ε γ} {xs : List β} (each : ∀ x ∈ xs, Yields post' (f x)) :
    Yields (fun ys => ∀ y ∈ ys, post' y) (xs.mapM f) := by
  induction xs with
  | nil => exact yields_ok (by simp)
  | cons x xs ih =>
    rw [List.mapM_cons]
    refine (each x List.mem_cons_self).bind fun y known => ?_
    refine (ih fun x member => each x (List.mem_cons_of_mem _ member)).bind fun ys others => ?_
    exact yields_ok (List.forall_mem_cons.mpr ⟨known, others⟩)

theorem Yields.foldlM {step : γ → β → Except ε γ} {xs : List β} {start : γ} (known : post' start)
    (each : ∀ c, ∀ x ∈ xs, post' c → Yields post' (step c x)) :
    Yields post' (xs.foldlM step start) := by
  induction xs generalizing start with
  | nil => exact yields_ok known
  | cons x xs ih =>
    rw [List.foldlM_cons]
    refine (each start x List.mem_cons_self known).bind fun next found => ?_
    exact ih found fun c x member => each c x (List.mem_cons_of_mem _ member)

end

end Checked

open Checked

variable {α : Type}

/-! ### Everything that is stored in a value -/

section
variable (good : α → Prop)

def Distance.All (a : Distance α) : Prop := good a.meters

structure Point.All (p : Point α) : Prop where
  x : good p.x
  y : good p.y

structure Line.All (line : Line α) : Prop where
  start : line.start.All good
  finish : line.finish.All good

def Polyline.All (shape : Polyline α) : Prop := ∀ p ∈ shape.points, p.All good

structure Polyline.Location.All (location : Polyline.Location α) : Prop where
  point : location.point.All good
  line : ∀ line ∈ location.line, line.All good

structure Unscaled.All (unscaled : Unscaled α) : Prop where
  shape : unscaled.shape.All good
  lengths : ∀ length ∈ unscaled.lengths, length.All good

structure Ribbon.All (ribbon : Ribbon α) : Prop where
  shape : ribbon.shape.All good
  lengths : ∀ length ∈ ribbon.lengths, length.All good
  unscaled : ∀ unscaled ∈ ribbon.unscaled, unscaled.All good

structure DashRun.All (run : DashRun α) : Prop where
  shape : run.shape.All good
  lengths : ∀ length ∈ run.lengths, length.All good

def DashedLine.All (line : DashedLine α) : Prop := ∀ run ∈ line.runs, run.All good

def Connections.All (found : Connections α) : Prop :=
  ∀ connection ∈ found.all, connection.ribbon.All good

structure Network.All (network : Network α) : Prop where
  junctions : ∀ junction ∈ network.junctions, junction.shape.All good
  lanes : ∀ edge ∈ network.edges, ∀ lane ∈ edge.lanes, lane.shape.All good

end

/-! ### Points of polylines -/

namespace Polyline

variable {good : α → Prop} {shape : Polyline α} {p : Point α}

theorem all_empty : (empty : Polyline α).All good := nofun

theorem All.first (known : shape.All good) (first : p ∈ shape.first?) : p.All good :=
  known p (List.mem_of_mem_head? first)

theorem All.last (known : shape.All good) (last : p ∈ shape.last?) : p.All good :=
  known p (List.mem_of_getLast? last)

theorem All.push (known : shape.All good) (added : p.All good) : (shape.push p).All good := by
  intro q member
  rcases List.mem_append.mp member with old | new
  · exact known q old
  · rw [List.mem_singleton.mp new]
    exact added

theorem All.reversed (known : shape.All good) : shape.reversed.All good :=
  fun p member => known p (List.mem_reverse.mp member)

theorem All.segments (known : shape.All good) : ∀ line ∈ shape.segments, line.All good := by
  intro line member
  obtain ⟨i, starts, finishes⟩ := getElem?_of_mem_segments member
  exact ⟨known _ (List.mem_of_getElem? starts), known _ (List.mem_of_getElem? finishes)⟩

theorem all_mapPoints (shape : Polyline α) {f : Point α → Checked α (Point α)}
    (each : ∀ p, Yields (Point.All good) (f p)) : Yields (All good) (shape.mapPoints f) :=
  Yields.bind (.mapM fun p _ => each p) fun _ known => yields_ok known

end Polyline

variable [Scalar α]

namespace Polyline

variable {good : α → Prop} {shape : Polyline α} {p : Point α}

theorem All.append (known : shape.All good) (added : p.All good) : (shape.append p).All good := by
  unfold Polyline.append
  split
  · split
    · exact known
    · exact known.push added
  · exact known.push added

theorem All.prepend (known : shape.All good) (added : p.All good) :
    (shape.prepend p).All good := by
  unfold Polyline.prepend
  split
  · split
    · exact known
    · exact List.forall_mem_cons.mpr ⟨added, known⟩
  · exact List.forall_mem_singleton.mpr added

theorem All.appendEach {points : List (Point α)} (known : shape.All good)
    (added : ∀ p ∈ points, p.All good) : (points.foldl Polyline.append shape).All good := by
  induction points generalizing shape with
  | nil => exact known
  | cons p points ih =>
    exact ih (known.append (added p List.mem_cons_self))
      fun q member => added q (List.mem_cons_of_mem _ member)

theorem All.closeLoop (known : shape.All good) : shape.closeLoop.All good := fun p member =>
  known p (mem_of_mem_closeLoop member)

theorem All.dropRepeats {kept : Point α} {points : List (Point α)}
    (known : ∀ p ∈ points, p.All good) : ∀ p ∈ dropRepeats kept points, p.All good := by
  induction points generalizing kept with
  | nil => exact nofun
  | cons first rest ih =>
    obtain ⟨here, others⟩ := List.forall_mem_cons.mp known
    rw [Polyline.dropRepeats]
    split
    · exact ih others
    · exact List.forall_mem_cons.mpr ⟨here, ih others⟩

theorem All.withoutRepeats (known : shape.All good) : shape.withoutRepeats.All good := by
  unfold Polyline.withoutRepeats
  split
  · exact all_empty
  next first rest points =>
    rw [Polyline.All, points] at known
    obtain ⟨here, others⟩ := List.forall_mem_cons.mp known
    exact List.forall_mem_cons.mpr ⟨here, All.dropRepeats others⟩

theorem all_dropBefore (begin seen : α) {lines : List (Line α)}
    (known : ∀ line ∈ lines, line.All good) :
    ∀ line ∈ (dropBefore begin seen lines).2, line.All good := by
  induction lines generalizing seen with
  | nil => exact known
  | cons line rest ih =>
    simp only [dropBefore]
    split
    · exact ih _ fun other member => known other (List.mem_cons_of_mem _ member)
    · exact known

theorem All.appendBefore (known : shape.All good) (finish seen : α) {lines : List (Line α)}
    (added : ∀ line ∈ lines, line.All good) :
    (appendBefore finish shape seen lines).All good := by
  induction lines generalizing shape seen with
  | nil => exact known
  | cons line rest ih =>
    obtain ⟨here, others⟩ := List.forall_mem_cons.mp added
    simp only [Polyline.appendBefore]
    split
    · exact ih (known.append here.finish) _ others
    · exact known

end Polyline

/-- A precision that numbers are stored in: whatever trimming gives has it, and so have the few
numbers that are stored without being trimmed. -/
class IsPrecision (good : α → Prop) : Prop where
  trim : ∀ x, Scalar.isFinite x → good (Scalar.trim x)
  zero : good 0
  tolerance : good (Distance.tolerance : Distance α).meters
  step : good (Distance.positionStep : Distance α).meters

variable (good : α → Prop)

/-! ### Distances, points and segments -/

namespace Distance

variable {good} in
theorem All.clamp {a low high : Distance α} (here : a.All good) (below : low.All good)
    (above : high.All good) : (a.clamp low high).All good := by
  unfold Distance.clamp
  split
  · exact below
  · split
    · exact above
    · exact here

variable [IsPrecision good]

theorem all_zero : (zero : Distance α).All good := IsPrecision.zero

theorem all_positionStep : (positionStep : Distance α).All good := IsPrecision.step

theorem all_ofMeters (x : α) : Yields (All good) (ofMeters x) := by
  intro a result
  obtain ⟨finite, rfl⟩ := ofMeters_eq_ok_iff.mp result
  exact IsPrecision.trim x finite

theorem all_divide (a : Distance α) (divisor : α) : Yields (All good) (a.divide divisor) := by
  unfold divide
  split
  · exact yields_error _
  · exact all_ofMeters good _

end Distance

namespace Point

variable [IsPrecision good]

theorem all_ofCoordinates (x y : α) : Yields (All good) (ofCoordinates x y) := by
  intro p result
  obtain ⟨⟨first, second⟩, rfl⟩ := ofCoordinates_eq_ok_iff.mp result
  exact ⟨IsPrecision.trim x first, IsPrecision.trim y second⟩

theorem all_project (p : Point α) (distance : Distance α) (angle : Angle α) :
    Yields (All good) (p.project distance angle) := by
  unfold project
  split
  · exact all_ofCoordinates good _ _
  · exact yields_error _

end Point

namespace Line

theorem all_between {start finish : Point α} (first : start.All good) (last : finish.All good) :
    Yields (All good) (between start finish) := by
  refine yields_bind fun length => ?_
  split
  · exact yields_error _
  · exact yields_ok ⟨first, last⟩

variable [IsPrecision good]

theorem all_length (line : Line α) : Yields (Distance.All good) line.length :=
  Distance.all_ofMeters good _

theorem all_shift (line : Line α) (width : α) : Yields (All good) (line.shift width) := by
  refine yields_bind fun distance => ?_
  refine (Point.all_project good _ _ _).bind fun start first => ?_
  exact (Point.all_project good _ _ _).bind fun finish last => yields_ok ⟨first, last⟩

theorem all_pointAtShare (line : Line α) (share : α) :
    Yields (Point.All good) (line.pointAtShare share) := Point.all_ofCoordinates good _ _

theorem all_pointAt (line : Line α) (distance : Distance α) :
    Yields (Point.All good) (line.pointAt distance) :=
  yields_bind fun _ => line.all_pointAtShare good _

theorem all_nearestOffset (line : Line α) (p : Point α) :
    Yields (Distance.All good) (line.nearestOffset p) :=
  yields_bind fun _ => Distance.all_ofMeters good _

theorem all_intersection (l m : Line α) :
    Yields (fun found => ∀ p ∈ found, Point.All good p) (l.intersection m) := by
  refine yields_bind fun length => yields_bind fun otherLength => ?_
  dsimp only
  split
  · exact yields_ok (by simp)
  · exact (Point.all_ofCoordinates good _ _).bind fun p known => yields_ok (by simpa using known)

end Line

/-! ### Polylines -/

namespace Polyline

variable [IsPrecision good]

theorem all_length (shape : Polyline α) : Yields (Distance.All good) shape.length :=
  Distance.all_ofMeters good _

theorem all_lengths (shape : Polyline α) :
    Yields (fun lengths => ∀ length ∈ lengths, Distance.All good length) shape.lengths :=
  .mapM fun line _ => line.all_length good

theorem all_rotate (shape : Polyline α) (angle : Angle α) : Yields (All good) (shape.rotate angle) :=
  shape.all_mapPoints fun _ => Point.all_ofCoordinates good _ _

theorem all_translate (shape : Polyline α) (dx dy : α) :
    Yields (All good) (shape.translate dx dy) :=
  shape.all_mapPoints fun _ => Point.all_ofCoordinates good _ _

variable {good}

theorem all_locateAmong {start : Point α} (known : start.All good) (distance seen : α)
    {last : Option (Line α)} (before : ∀ line ∈ last, line.All good) {lines : List (Line α)}
    (ahead : ∀ line ∈ lines, line.All good) :
    Yields (Location.All good) (locateAmong start distance seen last lines) := by
  induction lines generalizing seen last with
  | nil =>
    cases last with
    | none => exact yields_ok ⟨known, before⟩
    | some line => exact yields_ok ⟨(before line rfl).finish, before⟩
  | cons line rest ih =>
    obtain ⟨here, others⟩ := List.forall_mem_cons.mp ahead
    have latest : ∀ other ∈ some line, other.All good := by simpa using here
    rw [locateAmong]
    split
    · exact ih seen before others
    · split
      · exact (line.all_pointAtShare good _).bind fun p found => yields_ok ⟨found, latest⟩
      · exact ih _ latest others

variable {shape : Polyline α} (known : shape.All good)
include known

theorem All.locate? (distance : α) :
    Yields (fun found => ∀ location ∈ found, Location.All good location)
      (shape.locate? distance) := by
  unfold Polyline.locate?
  split
  · exact yields_ok (by simp)
  next start first =>
    refine (all_locateAmong (known.first first) distance 0 (by simp) known.segments).bind ?_
    exact fun location found => yields_ok (by simpa using found)

theorem All.pointAt? (distance : Distance α) :
    Yields (fun found => ∀ p ∈ found, Point.All good p) (shape.pointAt? distance) := by
  refine (known.locate? _).bind fun found each => yields_ok ?_
  cases found with
  | none => simp
  | some location => simpa using (each location rfl).point

theorem All.pointBeside? (distance : Distance α) (lateral : α) :
    Yields (fun found => ∀ p ∈ found, Point.All good p) (shape.pointBeside? distance lateral) := by
  refine (known.locate? _).bind fun found each => ?_
  split
  · exact yields_ok (by simp)
  · exact yields_ok (by simpa using (each _ rfl).point)
  · split
    · exact yields_ok (by simpa using (each _ rfl).point)
    · refine yields_bind fun _ => yields_bind fun _ => yields_bind fun moved => ?_
      exact (moved.all_pointAtShare good _).bind fun p found => yields_ok (by simpa using found)

theorem All.slice (begin finish : Distance α) : Yields (All good) (shape.slice begin finish) := by
  unfold Polyline.slice
  split
  · exact yields_ok known
  refine yields_bind fun total => ?_
  -- Both ends are looked up only where they are cut off, so what follows is reached in two ways.
  extract_lets cut
  have pieces (start? : Option (Point α)) (first : ∀ p ∈ start?, p.All good) :
      Yields (All good) (cut start?) := by
    unfold cut
    extract_lets join
    have joined (last? : Option (Point α)) (last : ∀ p ∈ last?, p.All good) :
        Yields (All good) (join last?) := by
      unfold join
      split
      next start stop =>
        have ahead := all_dropBefore begin.meters 0 known.segments
        generalize dropBefore begin.meters 0 shape.segments = dropped at ahead ⊢
        have single : Polyline.All good ⟨[start]⟩ := List.forall_mem_singleton.mpr (first _ rfl)
        have piece := (single.appendBefore finish.meters dropped.1 ahead).append (last _ rfl)
        refine yields_ok ?_
        split
        · exact piece.push (last _ rfl)
        · exact piece
      · exact yields_ok all_empty
    split
    · exact (known.pointAt? finish).bind joined
    · exact joined _ fun p => known.last
  split
  · exact (known.pointAt? begin).bind pieces
  · exact pieces _ fun p => known.first

theorem All.resample (step : Distance α) (keepEnd : Bool) :
    Yields (All good) (shape.resample step keepEnd) := by
  unfold Polyline.resample
  split
  · exact yields_ok all_empty
  extract_lets length pieces
  split
  · exact yields_ok all_empty
  refine Yields.bind (.mapM fun i _ => known.locate? _) fun locations each => ?_
  extract_lets result
  have spaced : result.All good := by
    intro p member
    obtain ⟨location?, found, here⟩ := List.mem_filterMap.mp member
    obtain ⟨location, there, rfl⟩ := Option.map_eq_some_iff.mp here
    exact (each location? found location there).point
  split
  next last ends =>
    split
    · exact yields_ok (spaced.push (known.last ends))
    · exact yields_ok spaced
  · exact yields_ok spaced

omit known

theorem all_corner {earlier later : Line α} (before : earlier.All good) :
    Yields (Point.All good) (corner earlier later) := by
  refine (Line.all_intersection good _ _).bind fun met found => yields_ok ?_
  cases met with
  | none => exact before.finish
  | some p => exact found p rfl

include known

theorem All.shift (width : α) : Yields (All good) (shape.shift width) := by
  unfold Polyline.shift
  -- Ends are those of moved segments, and corners are where two of them meet.
  extract_lets kept
  have here : kept.All good := known.withoutRepeats
  split
  · exact yields_ok here
  refine Yields.bind (.mapM fun line _ => line.all_shift good width) fun lines moved => ?_
  split
  next first last starts ends =>
    refine Yields.bind (.mapM fun pair member => all_corner (moved _ (List.of_mem_zip member).1))
      fun corners between => yields_ok ?_
    have begins := (moved _ (List.mem_of_mem_head? starts)).start
    have stops := (moved _ (List.mem_of_getLast? ends)).finish
    exact List.forall_mem_append (p := Point.All good) |>.mpr
      ⟨List.forall_mem_cons.mpr ⟨begins, between⟩, List.forall_mem_singleton.mpr stops⟩
  · exact yields_ok here

theorem All.centroid? : Yields (fun found => ∀ p ∈ found, Point.All good p) shape.centroid? := by
  have center (x y : α) : Yields (fun found => ∀ p ∈ found, Point.All good p)
      (do return some (← Point.ofCoordinates x y)) :=
    (Point.all_ofCoordinates good x y).bind fun p found => yields_ok (by simpa using found)
  -- Over areas and over lengths alike, the quotient of two sums is a new point.
  unfold Polyline.centroid?
  split
  · exact yields_ok (by simp)
  next first rest points =>
    have here : first.All good := known first (by simp [points])
    extract_lets ring area length
    split
    · exact center _ _
    · split
      · exact yields_ok (by simpa using here)
      · exact center _ _

theorem All.scale (factor : α) : Yields (All good) (shape.scale factor) := by
  refine yields_bind fun center => ?_
  cases center with
  | none => exact yields_ok known
  | some center => exact shape.all_mapPoints fun p => Point.all_ofCoordinates good _ _

omit known

/-- What the search for the nearest position stores. -/
structure NearestSearch.All (good : α → Prop) (search : NearestSearch α) : Prop where
  best : ∀ best ∈ search.best, best.2.All good
  seen : search.seen.All good

theorem NearestSearch.All.step {search : NearestSearch α} (known : search.All good) (p : Point α)
    (line : Line α) : Yields (All good) (search.step p line) := by
  refine yields_bind fun length => ?_
  split
  · exact yields_ok known
  refine yields_bind fun along => yields_bind fun near => ?_
  -- The length behind grows in any case, whether or not the position is a better one.
  extract_lets squared isBetter next
  have ends (best : Option (α × Distance α)) (found : ∀ b ∈ best, b.2.All good) :
      Yields (All good) (next best) :=
    (Distance.all_ofMeters good _).bind fun seen there => yields_ok ⟨found, there⟩
  split
  · exact (Distance.all_ofMeters good _).bind fun along here => ends _ (by simpa using here)
  · exact ends _ known.best

theorem all_nearestOffset (shape : Polyline α) (p : Point α) :
    Yields (Distance.All good) (shape.nearestOffset p) := by
  have start : NearestSearch.All good ⟨none, Distance.zero⟩ := ⟨by simp, Distance.all_zero good⟩
  refine (Yields.foldlM start fun search line _ known => known.step p line).bind ?_
  intro search found
  split
  next along best => exact yields_ok (found.best _ best)
  · exact yields_ok (Distance.all_zero good)

theorem all_ring (center : Point α) (radius : α) (sides : Nat) :
    Yields (All good) (ring center radius sides) := by
  unfold ring
  split
  · exact yields_ok all_empty
  refine Yields.bind (.mapM fun i _ => yields_bind fun direction => ?_) fun _ each => yields_ok each
  exact Point.all_ofCoordinates good _ _

end Polyline

end RoadSketch
