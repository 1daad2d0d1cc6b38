import RoadSketch.Proofs.DoubleNumbers
import RoadSketch.Proofs.Faults
import RoadSketch.Proofs.Polyline.Nearest

/-!
# The nearest segment

Which segment of a polyline decides where its position nearest to a point is: the earliest of those
that have a length and come nearest. How far along the polyline the position is, is added up from the
stored lengths of the segments before it. Doubles from finite points can always be compared, so that
there is such a segment.

## Main result

`nearestOffset_earliest`: the position that is found along any polyline.
-/
namespace RoadSketch

variable {α : Type} [Scalar α]

/-- Doubles that are numbers can be compared with each other. -/
theorem Double.totalOn {among : Float → Prop} (numbers : ∀ x, among x → Scalar.isNumber x) :
    Scalar.TotalOn among where
  asymm x y _ _ below above := by
    obtain ⟨r, left, s, right, lower⟩ := lt_iff_rank.mp below
    obtain ⟨s', right', r', left', upper⟩ := lt_iff_rank.mp above
    cases left.symm.trans left'
    cases right.symm.trans right'
    exact lt_asymm lower upper
  trans x y z _ middle right below notBelow := by
    have reaches := (LawfulOrder.not_lt_iff z y (numbers z right) (numbers y middle)).mp notBelow
    obtain ⟨r, left, s, middle, lower⟩ := lt_iff_rank.mp below
    obtain ⟨s', middle', t, right, upper⟩ := le_iff_rank.mp reaches
    cases middle.symm.trans middle'
    exact lt_iff_rank.mpr ⟨r, left, t, right, lower.trans_le upper⟩

/-- Adds up distances, of which those that are zero add nothing. -/
def Distance.total (distances : List (Distance α)) : Checked α (Distance α) :=
  (distances.filter fun distance => !distance == zero).foldlM add zero

theorem Line.hasLength_iff_exactLength {line : Line α} : line.HasLength ↔
    Scalar.isFinite line.exactLength ∧
      ¬(⟨Scalar.trim line.exactLength⟩ : Distance α) == Distance.zero := by
  constructor
  · rintro ⟨length, measured, nonzero⟩
    obtain ⟨finite, rfl⟩ := Distance.ofMeters_eq_ok_iff.mp measured
    exact ⟨finite, nonzero⟩
  · rintro ⟨finite, nonzero⟩
    exact ⟨_, Distance.ofMeters_eq_ok_iff.mpr ⟨finite, rfl⟩, nonzero⟩

namespace Polyline

/-- A squared distance that one of some segments offers. -/
def Offered (p : Point α) (lines : List (Line α)) (squared : α) : Prop :=
  ∃ line ∈ lines, ∃ along, line.Offers p along squared

/-- The segment at some place is the earliest of those that have a length and come nearest to a
point, at some position along it and some squared distance from it. -/
structure IsEarliestNearest (p : Point α) (lines : List (Line α)) (i : Nat) (along : Distance α)
    (squared : α) : Prop where
  offers : ∃ line, lines[i]? = some line ∧ line.Offers p along squared
  least : ∀ j line, lines[j]? = some line → line.HasLength →
    ∃ other further, line.Offers p other further ∧ ¬further < squared ∧
      (j < i → squared < further)

/-- What lies behind is the sum of the stored lengths. -/
theorem exists_lengths_of_covered {lines : List (Line α)} {seen : Distance α}
    (behind : covered lines = .ok seen) :
    ∃ lengths, lines.mapM Line.length = .ok lengths ∧ Distance.total lengths = .ok seen := by
  -- By induction on the segments for every sum that is there before them.
  suffices general : ∀ start : Distance α, lines.foldlM pass start = .ok seen →
      ∃ lengths, lines.mapM Line.length = .ok lengths ∧
        (lengths.filter fun length => !length == .zero).foldlM Distance.add start = .ok seen from
    general .zero behind
  clear behind
  induction lines with
  | nil => exact fun start added => ⟨[], rfl, added⟩
  | cons line rest ih =>
    intro start added
    simp only [List.foldlM_cons, pass, Checked.bind_eq_ok] at added
    obtain ⟨next, ⟨length, measured, passed⟩, added⟩ := added
    obtain ⟨lengths, others, total⟩ := ih next added
    refine ⟨length :: lengths, ?_, ?_⟩
    · rw [List.mapM_cons, measured, Checked.ok_bind, others]
      rfl
    · split at passed
      next zero =>
        cases passed
        rw [List.filter_cons_of_neg (by simp [zero])]
        exact total
      next nonzero =>
        rw [List.filter_cons_of_pos (by simp [nonzero]), List.foldlM_cons, passed, Checked.ok_bind]
        exact total

/-- A search without a fault has found a position on every segment that has a length. -/
theorem exists_offers {shape : Polyline α} {p : Point α} {offset : Distance α}
    (found : shape.nearestOffset p = .ok offset) {line : Line α} (member : line ∈ shape.segments)
    (long : line.HasLength) : ∃ along squared, line.Offers p along squared := by
  obtain ⟨search, ran, _⟩ := Checked.bind_eq_ok.mp found
  refine Checked.foldlM_induction (fun lines _ => ∀ line ∈ lines, line.HasLength →
    ∃ along squared, line.Offers p along squared) (by simp) ?_ ran line member long
  intro lines added search next _ before made seen either long
  rcases List.mem_append.mp either with known | here
  · exact before seen known long
  · obtain rfl := List.mem_singleton.mp here
    rcases (NearestSearch.step_cases made).2 with ⟨noLength, _⟩ | ⟨along, squared, offers, _⟩
    · exact absurd long noLength
    · exact ⟨along, squared, offers⟩

/-- The first nearest segment of those that were seen is the earliest nearest one, wherever the
others are. -/
theorem FirstNearest.exists_earliest {p : Point α} {lines : List (Line α)} {squared : α}
    {offset : Distance α} (first : FirstNearest p lines squared offset)
    (total : Scalar.TotalOn (Offered p lines))
    (each : ∀ line ∈ lines, line.HasLength → ∃ along squared, line.Offers p along squared) :
    ∃ i along seen, IsEarliestNearest p lines i along squared ∧
      covered (lines.take i) = .ok seen ∧ seen.add along = .ok offset := by
  have least : ∀ line ∈ lines, ∀ other further, line.Offers p other further →
      ¬further < squared := fun line member _ _ offers =>
    first.least total (fun line member along _ offers => ⟨line, member, along, offers⟩) member
      offers
  obtain ⟨before, line, after, seen, along, rfl, offers, behind, sum, earliest, _⟩ := first
  refine ⟨before.length, along, seen, ⟨⟨line, by simp, offers⟩, fun j other here long => ?_⟩,
    by simpa using behind, sum⟩
  have member := List.mem_of_getElem? here
  obtain ⟨position, further, found⟩ := each other member long
  refine ⟨position, further, found, least other member position further found, fun sooner => ?_⟩
  rw [List.getElem?_append_left sooner] at here
  exact earliest other (List.mem_of_getElem? here) position further found

/-! ### Main result -/

/-- The position that is found along a polyline: zero if no segment has a length, and otherwise that
on the earliest of the segments that come nearest, behind the stored lengths of all before it. -/
theorem nearestOffset_earliest {shape : Polyline α} {p : Point α} {offset : Distance α}
    (found : shape.nearestOffset p = .ok offset)
    (total : Scalar.TotalOn (Offered p shape.segments)) :
    ((∀ line ∈ shape.segments, ¬line.HasLength) → offset = .zero) ∧
    ((∃ line ∈ shape.segments, line.HasLength) →
      ∃ i along squared lengths seen, IsEarliestNearest p shape.segments i along squared ∧
        (shape.segments.take i).mapM Line.length = .ok lengths ∧
        Distance.total lengths = .ok seen ∧ seen.add along = .ok offset) := by
  have offered : OffersAmong p shape.segments (Offered p shape.segments) :=
    fun line member along _ offers => ⟨line, member, along, offers⟩
  rcases firstNearest_of_nearestOffset total offered found with ⟨zero, none⟩ | ⟨squared, first⟩
  · exact ⟨fun _ => zero, fun ⟨line, member, long⟩ => absurd long (none line member)⟩
  · refine ⟨fun none => ?_, fun _ => ?_⟩
    · obtain ⟨line, member, _, offers⟩ := first.offers
      exact absurd offers.hasLength (none line member)
    · obtain ⟨i, along, seen, earliest, behind, sum⟩ :=
        first.exists_earliest total fun _ => exists_offers found
      obtain ⟨lengths, measured, added⟩ := exists_lengths_of_covered behind
      exact ⟨i, along, squared, lengths, seen, earliest, measured, added, sum⟩

/-- From a finite point, all segments of any polyline are at distances that can be compared. -/
theorem totalOn_offered {p : Point Float} (finite : p.IsFinite) (lines : List (Line Float)) :
    Scalar.TotalOn (Offered p lines) := by
  refine Double.totalOn ?_
  rintro _ ⟨line, _, along, _, _, q, found, rfl⟩
  obtain ⟨length, _, made⟩ := Checked.bind_eq_ok.mp found
  obtain ⟨⟨x, y⟩, rfl⟩ := Point.ofCoordinates_eq_ok_iff.mp made
  exact Double.isNumber_squaredDistanceTo (LawfulOrder.isNumber_trim _ x)
    (LawfulOrder.isNumber_trim _ y) finite

/-- A hook that starts with a repeated point, and whose two long segments come equally near to the
point halfway between them. -/
def startingHook : Polyline Float := ⟨[⟨0, 0⟩, ⟨0, 0⟩, ⟨10, 0⟩, ⟨10, 4⟩, ⟨0, 4⟩]⟩

theorem nearestOffset_earliest_of_hook : ∃ offset, startingHook.nearestOffset ⟨5, 2⟩ = .ok offset ∧
    Scalar.TotalOn (Offered ⟨5, 2⟩ startingHook.segments) ∧
    ∃ i along squared lengths seen, IsEarliestNearest ⟨5, 2⟩ startingHook.segments i along squared ∧
      (startingHook.segments.take i).mapM Line.length = .ok lengths ∧
      Distance.total lengths = .ok seen ∧ seen.add along = .ok offset := by
  obtain ⟨offset, found⟩ : ∃ offset, startingHook.nearestOffset ⟨5, 2⟩ = .ok offset :=
    Checked.exists_of_isOk (by decide +kernel)
  have finite : (⟨5, 2⟩ : Point Float).IsFinite := ⟨by decide +kernel, by decide +kernel⟩
  have long : (Line.mk ⟨0, 0⟩ ⟨10, 0⟩ : Line Float).HasLength :=
    Line.hasLength_iff_exactLength.mpr ⟨by decide +kernel, by decide +kernel⟩
  have member : Line.mk ⟨0, 0⟩ ⟨10, 0⟩ ∈ startingHook.segments := .tail _ (.head _)
  have total := totalOn_offered finite startingHook.segments
  exact ⟨offset, found, total, (nearestOffset_earliest found total).2 ⟨_, member, long⟩⟩

end Polyline

end RoadSketch
