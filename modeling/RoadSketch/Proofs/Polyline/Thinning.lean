import RoadSketch.Proofs.Plane
import RoadSketch.Proofs.Segments

/-!
# Leaving out repeated points

A polyline that is put together point by point leaves out every point that coincides with the one
before. Of points in the stored precision only repeated ones do, so this keeps the first and the
last of them and leaves no two neighbours that are equal. It keeps all of them if there were no such
neighbours, and it does not matter whether points were put together before.
-/
namespace RoadSketch.Polyline

section
variable {α : Type} [Scalar α]

/-- All that adding a point can do: leave it out, or put it at the end. -/
theorem append_cases (shape : Polyline α) (p : Point α) :
    (∃ last, shape.last? = some last ∧ last.coincides p ∧ shape.append p = shape) ∨
      (∀ last ∈ shape.last?, ¬last.coincides p) ∧ shape.append p = shape.push p := by
  unfold append
  cases here : shape.last? with
  | none => exact .inr ⟨by simp, rfl⟩
  | some last =>
    by_cases same : last.coincides p
    · exact .inl ⟨last, rfl, same, if_pos same⟩
    · exact .inr ⟨by simpa using same, if_neg same⟩

theorem extend_concat (shape : Polyline α) (points : List (Point α)) (p : Point α) :
    shape.extend ⟨points ++ [p]⟩ = (shape.extend ⟨points⟩).append p := List.foldl_concat ..

/-- Of what is glued on, points may be left out. -/
theorem extend_sublist (shape : Polyline α) (points : List (Point α)) :
    (shape.extend ⟨points⟩).points.Sublist (shape.points ++ points) := by
  -- By induction from the end, as the last point is added last.
  induction points using List.reverseRecOn with
  | nil => exact List.sublist_append_left shape.points []
  | append_singleton points p ih =>
    rw [extend_concat, ← List.append_assoc]
    rcases (shape.extend ⟨points⟩).append_cases p with ⟨_, _, _, kept⟩ | ⟨_, grown⟩
    · rw [kept]
      exact ih.trans (List.sublist_append_left _ [p])
    · rw [grown]
      exact ih.append (.refl [p])

/-- A shape starts with the first of the points, and no two neighbours in it coincide. -/
structure Joined (points : List (Point α)) (shape : Polyline α) : Prop where
  first : shape.first? = points.head?
  changing : shape.points.IsChain fun p q => ¬p.coincides q

theorem Joined.append {points : List (Point α)} {shape : Polyline α} (joined : Joined points shape)
    (p : Point α) : Joined (points ++ [p]) (shape.append p) := by
  rcases shape.append_cases p with ⟨last, ends, _, kept⟩ | ⟨apart, grown⟩
  · have present : points ≠ [] := by
      rintro rfl
      rw [last?, List.head?_eq_none_iff.mp joined.first] at ends
      cases ends
    rw [kept]
    refine ⟨?_, joined.changing⟩
    rw [joined.first, List.head?_append_of_ne_nil _ present]
  · rw [grown]
    refine ⟨?_, ?_⟩
    · have first : shape.points.head? = points.head? := joined.first
      simp only [push, first?, List.head?_append, first]
    · refine joined.changing.append (.singleton p) ?_
      intro q ends r here
      rw [List.head?_singleton, Option.mem_some_iff] at here
      exact here ▸ apart q ends

/-- Gluing points onto nothing joins them. -/
theorem joined_extend (points : List (Point α)) : Joined points (empty.extend ⟨points⟩) := by
  induction points using List.reverseRecOn with
  | nil => exact ⟨rfl, .nil⟩
  | append_singleton points p ih =>
    rw [extend_concat]
    exact ih.append p

end

/-! ### Points in the stored precision -/

/-- Adding the last point once more changes nothing. -/
theorem append_last {shape : Polyline Exact} {p : Point Exact} (ends : shape.last? = some p) :
    shape.append p = shape := by
  rw [append, ends]
  exact if_pos p.coincides_self

theorem append_append_self (shape : Polyline Exact) (p : Point Exact) :
    (shape.append p).append p = shape.append p := by
  rcases shape.append_cases p with ⟨_, _, _, kept⟩ | ⟨_, grown⟩
  · rw [kept, kept]
  · rw [grown]
    exact append_last (last?_push shape p)

/-- The next point is added unless it is the last one. -/
theorem append_cases_of_onGrid {shape : Polyline Exact} (grid : ∀ q ∈ shape.points, q.OnGrid)
    {p : Point Exact} (added : p.OnGrid) :
    shape.last? = some p ∧ shape.append p = shape ∨
      shape.last? ≠ some p ∧ shape.append p = shape.push p := by
  rcases shape.append_cases p with ⟨last, ends, same, kept⟩ | ⟨apart, grown⟩
  · obtain rfl := ((grid last (List.mem_of_getLast? ends)).coincides_iff added).mp same
    exact .inl ⟨ends, kept⟩
  · exact .inr ⟨fun ends => apart p ends p.coincides_self, grown⟩

theorem last?_append {shape : Polyline Exact} (grid : ∀ q ∈ shape.points, q.OnGrid)
    {p : Point Exact} (added : p.OnGrid) : (shape.append p).last? = some p := by
  rcases append_cases_of_onGrid grid added with ⟨ends, kept⟩ | ⟨_, grown⟩
  · rw [kept, ends]
  · rw [grown, last?_push]

theorem onGrid_empty : ∀ q ∈ (empty : Polyline Exact).points, q.OnGrid :=
  List.forall_mem_nil _

theorem onGrid_extend {shape : Polyline Exact} {points : List (Point Exact)}
    (grid : ∀ q ∈ shape.points, q.OnGrid) (added : ∀ q ∈ points, q.OnGrid) :
    ∀ q ∈ (shape.extend ⟨points⟩).points, q.OnGrid := by
  intro q member
  rcases List.mem_append.mp ((extend_sublist shape points).subset member) with here | there
  · exact grid q here
  · exact added q there

/-- Points of which no two neighbours are equal are not left out. -/
theorem sublist_extend {shape : Polyline Exact} {points kept : List (Point Exact)}
    (grid : ∀ q ∈ shape.points, q.OnGrid) (added : ∀ q ∈ points, q.OnGrid)
    (changing : kept.IsChain (· ≠ ·)) (within : kept.Sublist (shape.points ++ points)) :
    kept.Sublist (shape.extend ⟨points⟩).points := by
  induction points using List.reverseRecOn generalizing kept with
  | nil => rwa [List.append_nil] at within
  | append_singleton points p ih =>
    obtain ⟨earlier, last⟩ := List.forall_mem_append.mp added
    rw [← List.append_assoc] at within
    obtain ⟨front, back, rfl, inside, atEnd⟩ := List.sublist_append_iff.mp within
    have found := ih earlier (List.isChain_append.mp changing).1 inside
    rw [extend_concat]
    rcases append_cases_of_onGrid (onGrid_extend grid earlier) (last p List.mem_cons_self) with
      ⟨ends, stays⟩ | ⟨_, grown⟩
    · rw [stays]
      rcases List.sublist_singleton.mp atEnd with rfl | rfl
      · rwa [List.append_nil]
      · -- The shape ends with `p` already, and what is kept before `p` does not.
        obtain ⟨others, whole⟩ := List.getLast?_eq_some_iff.mp ends
        rw [whole] at found ⊢
        obtain ⟨start, rest, rfl, among, further⟩ := List.sublist_append_iff.mp found
        rcases List.sublist_singleton.mp further with rfl | rfl
        · rw [List.append_nil]
          exact among.append (.refl [p])
        · exact absurd rfl ((List.isChain_append.mp changing).2.2 p (by simp) p (by simp))
    · rw [grown]
      exact found.append atEnd

/-- Points of which no two neighbours are equal are put together as they are. -/
theorem extend_of_isChain {points : List (Point Exact)} (grid : ∀ q ∈ points, q.OnGrid)
    (changing : points.IsChain (· ≠ ·)) : empty.extend ⟨points⟩ = ⟨points⟩ := by
  have all := sublist_extend onGrid_empty grid changing (.refl _)
  exact congrArg Polyline.mk ((extend_sublist empty points).antisymm all)

/-- After a shape that ends with a point is glued on, the point is there. -/
theorem append_of_extend (shape : Polyline Exact) {other : Polyline Exact} {p : Point Exact}
    (ends : other.last? = some p) : (shape.extend other).append p = shape.extend other := by
  obtain ⟨points⟩ := other
  obtain ⟨others, rfl⟩ := List.getLast?_eq_some_iff.mp ends
  rw [extend_concat, append_append_self]

/-- Gluing on points that were put together before leaves out no more and no less. -/
theorem extend_extend (shape : Polyline Exact) {points : List (Point Exact)}
    (grid : ∀ q ∈ points, q.OnGrid) :
    shape.extend (empty.extend ⟨points⟩) = shape.extend ⟨points⟩ := by
  induction points using List.reverseRecOn with
  | nil => rfl
  | append_singleton points p ih =>
    obtain ⟨earlier, last⟩ := List.forall_mem_append.mp grid
    rw [extend_concat, extend_concat, ← ih earlier]
    rcases append_cases_of_onGrid (onGrid_extend onGrid_empty earlier)
      (last p List.mem_cons_self) with ⟨ends, kept⟩ | ⟨_, grown⟩
    · rw [kept, append_of_extend shape ends]
    · rw [grown]
      exact extend_concat ..

/-- A shape runs through some of the points, from the first to the last and never on one spot. -/
structure Thinned (points : List (Point Exact)) (shape : Polyline Exact) : Prop where
  first : shape.first? = points.head?
  last : shape.last? = points.getLast?
  length : shape.points.length ≤ points.length
  changing : shape.points.IsChain (· ≠ ·)

/-- Putting points together one by one thins them out. -/
theorem thinned_foldl {points : List (Point Exact)} (grid : ∀ q ∈ points, q.OnGrid) :
    Thinned points (points.foldl Polyline.append Polyline.empty) := by
  obtain ⟨first, changing⟩ := joined_extend points
  have length := (extend_sublist empty points).length_le
  refine ⟨first, ?_, length, changing.imp fun p q apart => ?_⟩
  · rcases List.eq_nil_or_concat' points with rfl | ⟨before, p, rfl⟩
    · rfl
    · obtain ⟨earlier, last⟩ := List.forall_mem_append.mp grid
      rw [List.foldl_concat, List.getLast?_concat]
      exact last?_append (onGrid_extend onGrid_empty earlier) (last p List.mem_cons_self)
  · rintro rfl
    exact apart p.coincides_self

end RoadSketch.Polyline
