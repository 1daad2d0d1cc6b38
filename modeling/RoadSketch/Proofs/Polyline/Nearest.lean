import RoadSketch.Polyline.Arclength
import RoadSketch.Proofs.Checked

/-!
# Nearest positions

What the search for the position of a polyline nearest to a point finds: the first of the segments
that come nearest, and the position on it, behind the stored lengths of the segments before.
Segments without a stored length are passed over.

One step of the search either passes over a segment, replaces the best position by a nearer one or
keeps it. That the best one is the first nearest of all that was seen so far is what every step
keeps, as long as the squared distances can be compared with each other.

## Main result

`firstNearest_of_nearestOffset`: what is found along a whole polyline.
-/
namespace RoadSketch

variable {α : Type} [Scalar α]

/-- Comparisons of some numbers agree with each other, as those of what is not a number do not. -/
structure Scalar.TotalOn (among : α → Prop) : Prop where
  asymm : ∀ x y, among x → among y → x < y → ¬y < x
  trans : ∀ x y z, among x → among y → among z → x < y → ¬z < y → x < z

namespace Line

/-- The stored length of a segment is not zero. -/
def HasLength (line : Line α) : Prop :=
  ∃ length, line.length = .ok length ∧ ¬length == Distance.zero

/-- What a segment offers to a search: its position nearest to a point, and how far that is. -/
structure Offers (p : Point α) (line : Line α) (along : Distance α) (squared : α) : Prop where
  hasLength : line.HasLength
  located : line.nearestOffset p = .ok along
  measured : ∃ q, line.pointAt along = .ok q ∧ q.squaredDistanceTo p = squared

theorem Offers.unique {p : Point α} {line : Line α} {along other : Distance α} {squared further : α}
    (first : line.Offers p along squared) (second : line.Offers p other further) :
    further = squared := by
  obtain ⟨_, located, q, found, rfl⟩ := first
  obtain ⟨_, relocated, r, again, rfl⟩ := second
  cases located.symm.trans relocated
  cases found.symm.trans again
  rfl

end Line

namespace Polyline

/-- Leaves a segment behind, unless it has no stored length. -/
def pass (seen : Distance α) (line : Line α) : Checked α (Distance α) := do
  let length ← line.length
  if length == Distance.zero then return seen
  seen.add length

/-- The stored length of the segments behind. -/
def covered (lines : List (Line α)) : Checked α (Distance α) := lines.foldlM pass Distance.zero

theorem covered_concat {lines : List (Line α)} {seen next : Distance α} {line : Line α}
    (before : covered lines = .ok seen) (passed : pass seen line = .ok next) :
    covered (lines ++ [line]) = .ok next := by
  rw [covered] at before
  simp only [covered, List.foldlM_append, before, Checked.ok_bind, List.foldlM_cons, passed,
    List.foldlM_nil]
  rfl

/-- All squared distances that segments offer are among some numbers. -/
def OffersAmong (p : Point α) (lines : List (Line α)) (among : α → Prop) : Prop :=
  ∀ line ∈ lines, ∀ along squared, line.Offers p along squared → among squared

/-- The position of the first of the segments that come nearest to a point. -/
def FirstNearest (p : Point α) (lines : List (Line α)) (squared : α) (offset : Distance α) : Prop :=
  ∃ before line after seen along, lines = before ++ line :: after ∧
    line.Offers p along squared ∧ covered before = .ok seen ∧ seen.add along = .ok offset ∧
    (∀ earlier ∈ before, ∀ other further, earlier.Offers p other further → squared < further) ∧
    ∀ later ∈ after, ∀ other further, later.Offers p other further → ¬further < squared

namespace FirstNearest

variable {p : Point α} {lines : List (Line α)} {line : Line α} {squared : α}
  {offset : Distance α}

/-- A further segment that comes no nearer changes nothing. -/
theorem concat (first : FirstNearest p lines squared offset)
    (notNearer : ∀ other further, line.Offers p other further → ¬further < squared) :
    FirstNearest p (lines ++ [line]) squared offset := by
  obtain ⟨before, best, after, seen, along, rfl, offers, behind, sum, earliest, least⟩ := first
  refine ⟨before, best, after ++ [line], seen, along, by simp, offers, behind, sum, earliest, ?_⟩
  intro later member
  rcases List.mem_append.mp member with known | added
  · exact least later known
  · exact List.mem_singleton.mp added ▸ notNearer

theorem offers (first : FirstNearest p lines squared offset) :
    ∃ line ∈ lines, ∃ along, line.Offers p along squared := by
  obtain ⟨before, line, after, seen, along, rfl, offers, _⟩ := first
  exact ⟨line, by simp, along, offers⟩

/-- Of all segments that were seen, none comes nearer. -/
theorem least (first : FirstNearest p lines squared offset) {among : α → Prop}
    (total : Scalar.TotalOn among) (offered : OffersAmong p lines among)
    (member : line ∈ lines) {other : Distance α} {further : α}
    (offers : line.Offers p other further) : ¬further < squared := by
  obtain ⟨before, best, after, seen, along, rfl, chosen, _, _, earliest, least⟩ := first
  have known := offered best (by simp) along squared chosen
  rcases List.mem_append.mp member with early | late
  · exact total.asymm _ _ known (offered _ member _ _ offers)
      (earliest line early other further offers)
  · rcases List.mem_cons.mp late with rfl | late
    · rw [chosen.unique offers]
      exact fun nearer => total.asymm _ _ known known nearer nearer
    · exact least line late other further offers

end FirstNearest

/-! ### The search -/

namespace NearestSearch

/-- All that a step can do with a segment: leave it behind, and pass over its position, prefer it to
the best one, or keep that one. -/
theorem step_cases {p : Point α} {search next : NearestSearch α} {line : Line α}
    (made : step p search line = .ok next) :
    pass search.seen line = .ok next.seen ∧
    ((¬line.HasLength ∧ next.best = search.best) ∨
      ∃ along squared, line.Offers p along squared ∧
        (((∀ best ∈ search.best, squared < best.1) ∧
            ∃ offset, search.seen.add along = .ok offset ∧ next.best = some (squared, offset)) ∨
          ((∃ best ∈ search.best, ¬squared < best.1) ∧ next.best = search.best))) := by
  simp only [step, Checked.bind_eq_ok] at made
  obtain ⟨length, measured, made⟩ := made
  rw [pass, measured, Checked.ok_bind]
  split at made
  next zero =>
    cases made
    refine ⟨if_pos zero, .inl ⟨?_, rfl⟩⟩
    rintro ⟨other, again, nonzero⟩
    cases measured.symm.trans again
    exact nonzero zero
  next nonzero =>
    simp only [Checked.bind_eq_ok] at made
    obtain ⟨along, located, q, found, made⟩ := made
    rw [if_neg nonzero]
    have offers : line.Offers p along (q.squaredDistanceTo p) :=
      ⟨⟨length, measured, nonzero⟩, located, q, found, rfl⟩
    cases known : search.best with
    | none =>
      simp only [known, if_true, Checked.bind_eq_ok, Checked.pure_eq_ok] at made
      obtain ⟨offset, sum, _, rfl, seen, behind, rfl⟩ := made
      exact ⟨behind, .inr ⟨along, _, offers, .inl ⟨by simp, offset, sum, rfl⟩⟩⟩
    | some best =>
      simp only [known, decide_eq_true_eq] at made
      split at made
      next nearer =>
        simp only [Checked.bind_eq_ok, Checked.pure_eq_ok] at made
        obtain ⟨offset, sum, _, rfl, seen, behind, rfl⟩ := made
        refine ⟨behind, .inr ⟨along, _, offers, .inl ⟨?_, offset, sum, rfl⟩⟩⟩
        intro other same
        cases same
        exact nearer
      next further =>
        simp only [Checked.bind_eq_ok, Checked.pure_eq_ok] at made
        obtain ⟨_, rfl, seen, behind, rfl⟩ := made
        exact ⟨behind, .inr ⟨along, _, offers, .inr ⟨⟨best, rfl, further⟩, rfl⟩⟩⟩

/-- What a search knows of the segments it has seen. -/
structure Covers (p : Point α) (lines : List (Line α)) (search : NearestSearch α) : Prop where
  seen : covered lines = .ok search.seen
  missing : search.best = none → ∀ line ∈ lines, ¬line.HasLength
  found : ∀ squared offset, search.best = some (squared, offset) →
    FirstNearest p lines squared offset

/-- What every step keeps. -/
theorem Covers.step {p : Point α} {lines : List (Line α)} {search next : NearestSearch α}
    {line : Line α} {among : α → Prop} (total : Scalar.TotalOn among)
    (offered : OffersAmong p (lines ++ [line]) among)
    (covers : search.Covers p lines) (made : step p search line = .ok next) :
    next.Covers p (lines ++ [line]) := by
  have before : OffersAmong p lines among :=
    fun seen member => offered seen (List.mem_append_left _ member)
  obtain ⟨passed, cases⟩ := step_cases made
  have seen := covered_concat covers.seen passed
  rcases cases with ⟨noLength, kept⟩ | ⟨along, squared, offers, preferred | ⟨notNearer, kept⟩⟩
  · refine ⟨seen, ?_, ?_⟩
    · intro missing other member
      rcases List.mem_append.mp member with known | added
      · exact covers.missing (kept ▸ missing) other known
      · exact List.mem_singleton.mp added ▸ noLength
    · intro squared offset best
      exact (covers.found squared offset (kept ▸ best)).concat
        fun other further offers => absurd offers.hasLength noLength
  · obtain ⟨nearer, offset, sum, chosen⟩ := preferred
    refine ⟨seen, fun missing => absurd (chosen.symm.trans missing) (by simp), ?_⟩
    intro further position best
    cases chosen.symm.trans best
    refine ⟨lines, line, [], search.seen, along, rfl, offers, covers.seen, sum, ?_, by simp⟩
    intro earlier member other further earlierOffers
    -- The best position so far is at least as near as that of any earlier segment.
    cases known : search.best with
    | none => exact absurd earlierOffers.hasLength (covers.missing known earlier member)
    | some best =>
      have first := covers.found best.1 best.2 known
      obtain ⟨chosen, seenBefore, position, bestOffers⟩ := first.offers
      exact total.trans _ _ _ (offered line (by simp) along squared offers)
        (before chosen seenBefore position best.1 bestOffers)
        (before earlier member other further earlierOffers) (nearer best known)
        (first.least total before member earlierOffers)
  · obtain ⟨best, known, notNearer⟩ := notNearer
    refine ⟨seen, fun missing => ?_, ?_⟩
    · rw [kept, Option.mem_def.mp known] at missing
      cases missing
    · intro squared' offset chosen
      rw [kept, Option.mem_def.mp known] at chosen
      cases chosen
      refine (covers.found _ _ known).concat fun other further others => ?_
      rw [offers.unique others]
      exact notNearer

end NearestSearch

/-! ### Main result -/

/-- The position that is found: zero on a polyline whose segments all have no stored length, and
otherwise that of the first of the segments that come nearest. -/
theorem firstNearest_of_nearestOffset {shape : Polyline α} {p : Point α} {offset : Distance α}
    {among : α → Prop} (total : Scalar.TotalOn among)
    (offered : OffersAmong p shape.segments among)
    (found : shape.nearestOffset p = .ok offset) :
    (offset = Distance.zero ∧ ∀ line ∈ shape.segments, ¬line.HasLength) ∨
      ∃ squared, FirstNearest p shape.segments squared offset := by
  simp only [nearestOffset, Checked.bind_eq_ok, Checked.pure_eq_ok] at found
  obtain ⟨search, ran, found⟩ := found
  have covers : search.Covers p shape.segments := by
    refine (Checked.foldlM_induction (fun lines search =>
      (∀ line ∈ lines, line ∈ shape.segments) ∧ search.Covers p lines) ?_ ?_ ran).2
    · exact ⟨by simp, rfl, by simp, by simp⟩
    · rintro lines line search next member ⟨within, covers⟩ made
      have stillWithin : ∀ seen ∈ lines ++ [line], seen ∈ shape.segments := by
        intro seen either
        rcases List.mem_append.mp either with known | added
        · exact within seen known
        · exact List.mem_singleton.mp added ▸ member
      have stillOffered : OffersAmong p (lines ++ [line]) among :=
        fun seen either => offered seen (stillWithin seen either)
      exact ⟨stillWithin, covers.step total stillOffered made⟩
  cases best : search.best with
  | none =>
    rw [best] at found
    exact .inl ⟨found.symm, covers.missing best⟩
  | some nearest =>
    rw [best] at found
    exact .inr ⟨nearest.1, found ▸ covers.found nearest.1 nearest.2 best⟩

end Polyline

end RoadSketch
