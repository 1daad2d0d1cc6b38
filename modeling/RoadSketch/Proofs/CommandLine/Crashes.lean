import RoadSketch.CommandLine.Answer
import RoadSketch.Proofs.DoubleTrimming
import RoadSketch.Proofs.Network.Indices

/-!
# Crashes

Files and arguments come from outside, and sizes among them are only looked at where they come in.
Calculations with finite sizes may still leave the range of doubles, and that is the only way in
which a request can crash: nothing is looked up that is missing, divided by zero or moved away by
less than nothing, whatever the files and the arguments are.

This is so within memory only. A list of points has no greatest size here, so there is an answer for
any count of steps, also for one that no memory has room for. The same goes for the points of dashes
along a connector whose length is not finite.

## Main result

`Answer.ofArguments_outcome`: a request is answered, turned down with a message, or crashes over a
coordinate or a distance that is not finite.
-/
namespace RoadSketch

open Checked

/-- A coordinate or a distance that has left the range of doubles. -/
def Fault.IsOutOfRange : Fault Float → Prop
  | .badPoint x y => ¬(x.isFinite ∧ y.isFinite)
  | .badDistance meters => ¬meters.isFinite
  | _ => False

/-- Over doubles, what points are moved away by is never negative. -/
theorem Distance.IsReach.zero_le {distance : Distance Float} (reach : distance.IsReach) :
    zero ≤ distance := by
  obtain ⟨x, kept | kept⟩ := reach
  · obtain ⟨finite, rfl⟩ := ofMeters_eq_ok_iff.mp kept
    exact Double.zero_le_trimFloat finite (Double.not_abs_lt_zero x)
  · obtain ⟨finite, rfl⟩ := ofMeters_eq_ok_iff.mp kept
    exact Double.zero_le_trimFloat finite (Double.not_greater_lt_zero x)

theorem Fault.IsGeometric.isOutOfRange {fault : Fault Float} (geometric : fault.IsGeometric) :
    fault.IsOutOfRange := by
  cases fault with
  | badPoint x y => exact fun finite => geometric (Bool.and_eq_true_iff.mpr finite)
  | badDistance meters => exact geometric
  | zeroDivisor dividend divisor =>
    obtain ⟨rfl, zero⟩ := geometric
    exact absurd zero (by decide +kernel)
  | negativeReach =>
    obtain ⟨distance, reach, negative⟩ := geometric
    exact negative reach.zero_le
  | emptyDivisor | shortSegment | missingItem | overflow | noConnection => exact geometric

/-- A message about what is wrong, or else a crash over a number out of range. -/
def Failure.IsExpected : Failure → Prop
  | .usage | .refused _ => True
  | .crashed fault => fault.IsOutOfRange

theorem Polyline.isGeometric_ringAround (x y radius : Float) (steps : Nat) :
    IsGeometric (do Polyline.ring (← Point.ofCoordinates x y) radius steps) :=
  (Point.isGeometric_ofCoordinates x y).bind fun center _ => isGeometric_ring center radius steps

theorem Network.defect?_eq_none_of_load {file text : String} {network : Network Float}
    (loaded : Network.load file text = .ok network) : network.defect? = none := by
  obtain ⟨read, _, checked⟩ := bind_eq_ok.mp loaded
  split at checked
  · cases checked
  next sound =>
    cases pure_eq_ok.mp checked
    exact sound

namespace Answer

variable (files : String → FileState)

theorem failsOnly_checked {β : Type} {outcome : Checked Float β} (geometric : IsGeometric outcome) :
    FailsOnly Failure.IsExpected (checked outcome) := by
  cases outcome with
  | error fault => exact failsOnly_error (geometric.known fault rfl).isOutOfRange
  | ok value => exact failsOnly_ok value

theorem failsOnly_load {β : Type} (read : String → String → Except LoadError β) (name : String) :
    FailsOnly Failure.IsExpected (load files read name) := by
  refine FailsOnly.bind ?_ fun text _ => ?_
  · unfold fileText
    split
    · exact failsOnly_ok _
    all_goals exact failsOnly_error trivial
  · cases read name text with
    | error error => exact failsOnly_error trivial
    | ok value => exact failsOnly_ok value

theorem exists_of_load {β : Type} {read : String → String → Except LoadError β} {name : String}
    {value : β} (loaded : load files read name = .ok value) :
    ∃ text, read name text = .ok value := by
  obtain ⟨text, -, decoded⟩ := bind_eq_ok.mp loaded
  cases result : read name text with
  | error error => simp [result, Except.mapError] at decoded
  | ok other =>
    simp only [result, Except.mapError, Except.ok.injEq] at decoded
    exact ⟨text, decoded ▸ result⟩

theorem failsOnly_outline (input : String) (settings : Option String) (kind : OutlineKind)
    (closed : Bool) (width exaggeration : Float) :
    FailsOnly Failure.IsExpected
      (outline files input settings kind closed width exaggeration) := by
  refine (failsOnly_load files _ input).bind fun shape _ => ?_
  -- What is drawn goes wrong in the same ways whether or not settings were loaded.
  have drawn (settings : Settings Float) : FailsOnly Failure.IsExpected (do
      if !width.isFinite || !exaggeration.isFinite then
        throw (.refused "The width and exaggeration must be finite")
      if closed then
        return Drawing.toJson
          (← checked (Contour.closedShape kind settings shape exaggeration none)).value
      else
        return Drawing.toJson
          (← checked (Contour.path kind settings shape width exaggeration true true none))) := by
    extract_lets draw
    split
    · exact failsOnly_error trivial
    · cases closed with
      | true =>
        exact (failsOnly_checked (Contour.isGeometric_closedShape ..)).bind fun _ _ =>
          failsOnly_ok _
      | false =>
        exact (failsOnly_checked (Contour.isGeometric_path ..)).bind fun _ _ => failsOnly_ok _
  cases settings with
  | none => exact drawn .standard
  | some name => exact (failsOnly_load files _ name).bind fun settings _ => drawn settings

theorem failsOnly_circle (x y radius : Float) (steps : Nat) :
    FailsOnly Failure.IsExpected (circle x y radius steps) := by
  unfold circle
  split
  · exact failsOnly_error trivial
  · exact (failsOnly_checked (Polyline.isGeometric_ringAround x y radius steps)).bind
      fun ring _ => failsOnly_ok _

/-- The lookup of a connection that is listed does not fail. -/
theorem isGeometric_connectionJson {found : Connections Float} {target : LaneId}
    (listed : target ∈ found.targets) : IsGeometric (connectionJson found target) := by
  obtain ⟨ribbon, kept⟩ := Connections.exists_ribbon listed
  rw [connectionJson, kept]
  exact failsOnly_ok _

theorem failsOnly_connections (name : String) (edge : EdgeId) (lane : Nat) :
    FailsOnly Failure.IsExpected (connections files name edge lane) := by
  refine (failsOnly_load files _ name).bind fun network loaded => ?_
  obtain ⟨text, read⟩ := exists_of_load files loaded
  -- Only networks without defects are loaded, so no lookup can miss.
  have sound := Network.defect?_eq_none_of_load read
  have valid : network.Valid := Network.defect?_eq_none.mp sound
  split
  · exact failsOnly_error trivial
  next there =>
    have here := List.getElem?_eq_getElem (Nat.lt_of_not_le there)
    have counted : network.laneCount edge = .ok network.edges[edge.index].lanes.length :=
      Network.laneCount_eq_ok.mpr ⟨_, here, rfl⟩
    rw [counted]
    change FailsOnly _ (if _ then _ else _)
    split
    · exact failsOnly_error trivial
    next within =>
      have known : network.HasLane ⟨edge, lane⟩ := ⟨_, here, Nat.lt_of_not_le within⟩
      have found : IsGeometric (network.refresh [] (Connections.none ⟨edge, lane⟩)) :=
        Network.isGeometric_refresh valid [] known
      refine (failsOnly_checked found).bind fun noted _ => ?_
      have written : IsGeometric (noted.value.targets.mapM (connectionJson noted.value)) :=
        FailsOnly.mapM fun _ listed => isGeometric_connectionJson listed
      exact (failsOnly_checked written).bind fun _ _ => failsOnly_ok _

theorem failsOnly_ofRequest (request : Request) :
    FailsOnly Failure.IsExpected (ofRequest files request) := by
  cases request with
  | outline input settings kind closed width exaggeration =>
    exact failsOnly_outline files input settings kind closed width exaggeration
  | circle x y radius steps => exact failsOnly_circle x y radius steps
  | connections network edge lane => exact failsOnly_connections files network ⟨edge⟩ lane

/-- Whatever the files and the arguments are, and as long as there is memory for all points: the
program writes an answer, or it says that it does not understand the arguments or what is wrong with
them or with the files, or else it crashes over a coordinate or a distance that is not finite. -/
theorem ofArguments_outcome (arguments : List String) :
    (∃ text, ofArguments files arguments = .ok text) ∨
    ofArguments files arguments = .error .usage ∨
    (∃ message, ofArguments files arguments = .error (.refused message)) ∨
    ∃ fault, ofArguments files arguments = .error (.crashed fault) ∧ fault.IsOutOfRange := by
  have expected : FailsOnly Failure.IsExpected (ofArguments files arguments) := by
    unfold ofArguments
    split
    · exact failsOnly_error trivial
    next request _ => exact (failsOnly_ofRequest files request).bind fun _ _ => failsOnly_ok _
  cases outcome : ofArguments files arguments with
  | ok text => exact .inl ⟨text, rfl⟩
  | error failure =>
    cases failure with
    | usage => exact .inr (.inl rfl)
    | refused message => exact .inr (.inr (.inl ⟨message, rfl⟩))
    | crashed fault => exact .inr (.inr (.inr ⟨fault, rfl, expected.known _ outcome⟩))

def isCrash {β : Type} : Attempt β → Bool
  | .error (.crashed _) => true
  | _ => false

theorem exists_of_isCrash {β : Type} {attempt : Attempt β} (crash : isCrash attempt) :
    ∃ fault, attempt = .error (.crashed fault) := by
  match attempt, crash with
  | .error (.crashed fault), _ => exact ⟨fault, rfl⟩

/-- A size that is finite when it comes in may still be too large: the triangle that is scaled here
becomes so long that its length is not finite. -/
theorem ofArguments_crash : ∃ fault, ofArguments (fun _ => .readable "[[0,0],[1,0],[1,1]]")
    ["dotted-contour", "points.json", "--closed", "--exaggeration", "1e300"] =
      .error (.crashed fault) :=
  exists_of_isCrash (by decide +kernel)

end Answer

end RoadSketch
