import RoadSketch.Proofs.Ribbon.Backwards

/-!
# Fitted windows

On a path of at least one position step, whatever is asked for becomes a window that lies on the
path and is not empty. Asking for that window again gives it back.

Fitting only moves what does not fit: a start that is too late, an end that is too late or not
behind the start. In a window that was fitted there is nothing of that kind left.

## Main result

`windows_fitted`: windows between two positions, and windows that two trims leave.
-/
namespace RoadSketch.Window

/-! ### Trims -/

section
variable {α : Type} [Scalar α] {trim : Distance α}

theorem usable?_eq_some (nonneg : .zero ≤ trim) : usable? (some trim) = some trim :=
  Option.filter_some_pos (decide_eq_true nonneg)

theorem usable?_eq_none (negative : ¬.zero ≤ trim) : usable? (some trim) = none :=
  Option.filter_some_neg (by simpa using negative)

/-- A trim that counts is one of those given, and not negative. -/
theorem of_usable? {given : Option (Distance α)} (usable : usable? given = some trim) :
    given = some trim ∧ .zero ≤ trim := by
  obtain ⟨present, nonneg⟩ := Option.filter_eq_some_iff.mp usable
  exact ⟨present, of_decide_eq_true nonneg⟩

end

/-! ### Windows that fit -/

/-- A window lies on a path of some length and is not empty. -/
structure LiesOn (length : Distance Exact) (window : Window Exact) : Prop where
  start : .zero ≤ window.start
  forward : window.start < window.finish
  finish : window.finish ≤ length

/-- A window in which there is nothing left to move. -/
structure Fitted (length : Distance Exact) (window : Window Exact) : Prop where
  liesOn : window.LiesOn length
  early : window.start ≤ latest length
  onGrid : window.start.OnGrid

variable {start finish length : Distance Exact}

theorem liesOn_step (nonneg : .zero ≤ start) (early : start ≤ latest length) :
    (step start).LiesOn length := by
  simp only [Distance.le_iff, value_latest] at early
  refine ⟨nonneg, ?_, ?_⟩
  · simp [step]
  · simp only [step, Distance.le_iff, Exact.value_add, Distance.value_positionStep]
    linarith

/-- On a path that has room for a position step, a start on the path is pulled back to a place
on it. -/
theorem zero_le_pulled (long : .positionStep ≤ length) (nonneg : .zero ≤ start) :
    .zero ≤ pulled start length := by
  unfold pulled
  split
  · simpa using long
  · exact nonneg

theorem exists_fit (startGrid : start.OnGrid) (lengthGrid : length.OnGrid)
    (long : .positionStep ≤ length) (nonneg : .zero ≤ start) :
    ∃ window, fit start finish length = .ok window ∧ window.Fitted length := by
  have onPath := zero_le_pulled long nonneg
  have early : pulled start length ≤ latest length := by
    simpa using pulled_le_latest start length
  have onGrid := onGrid_pulled startGrid lengthGrid
  refine ⟨_, fit_eq_ok startGrid lengthGrid, ?_⟩
  split
  next => exact ⟨liesOn_step onPath early, early, onGrid⟩
  next ahead =>
    refine ⟨⟨onPath, Distance.not_le_iff.mp ahead, ?_⟩, early, onGrid⟩
    unfold cut
    split
    · exact le_refl (α := ℝ) _
    next within => exact Distance.not_lt_iff.mp within

/-- Fitting a fitted window moves neither end. -/
theorem Fitted.fit {window : Window Exact} (fitted : window.Fitted length)
    (lengthGrid : length.OnGrid) :
    Window.fit window.start window.finish length = .ok window := by
  have stays : pulled window.start length = window.start :=
    if_neg (Distance.not_lt_iff.mpr fitted.early)
  have uncut : cut window.finish length = window.finish :=
    if_neg (Distance.not_lt_iff.mpr fitted.liesOn.finish)
  have ahead := Distance.not_le_iff.mpr fitted.liesOn.forward
  rw [fit_eq_ok fitted.onGrid lengthGrid, stays, uncut, if_neg ahead]

/-! ### Windows between positions, and windows that trims leave -/

theorem exists_ofPositions (startGrid : start.OnGrid) (lengthGrid : length.OnGrid)
    (long : .positionStep ≤ length) :
    ∃ window, ofPositions start finish length = .ok window ∧ window.Fitted length := by
  unfold ofPositions
  split
  next => exact exists_fit Exact.onGrid_zero lengthGrid long (le_refl (α := ℝ) _)
  next forward => exact exists_fit startGrid lengthGrid long (Distance.not_lt_iff.mp forward)

theorem exists_ofTrims {first last : Option (Distance Exact)} (grid : ∀ trim ∈ first, trim.OnGrid)
    (lengthGrid : length.OnGrid) (long : .positionStep ≤ length) :
    ∃ window, ofTrims first last length = .ok window ∧ window.Fitted length := by
  unfold ofTrims
  cases usable : usable? first with
  | none => exact exists_fit Exact.onGrid_zero lengthGrid long (le_refl (α := ℝ) _)
  | some trim =>
    obtain ⟨given, nonneg⟩ := of_usable? usable
    exact exists_fit (grid trim given) lengthGrid long nonneg

variable {window : Window Exact}

theorem Fitted.ofPositions (fitted : window.Fitted length) (lengthGrid : length.OnGrid) :
    Window.ofPositions window.start window.finish length = .ok window := by
  have forward : ¬window.start < .zero := Distance.not_lt_iff.mpr fitted.liesOn.start
  rw [Window.ofPositions, if_neg forward, fitted.fit lengthGrid]

theorem Fitted.ofTrims (fitted : window.Fitted length) (lengthGrid : length.OnGrid) :
    Window.ofTrims (some window.start) (some window.finish) length = .ok window := by
  obtain ⟨start, forward, _⟩ := fitted.liesOn
  have finish : .zero ≤ window.finish := le_of_lt (α := ℝ) (lt_of_le_of_lt (α := ℝ) start forward)
  rw [Window.ofTrims, usable?_eq_some start, usable?_eq_some finish]
  exact fitted.fit lengthGrid

/-! ### Main result -/

/-- On a path of at least one position step, any two positions and any two trims, missing or not,
give a window that lies on the path and is not empty, and which its own ends give again. -/
theorem windows_fitted (lengthGrid : length.OnGrid) (long : .positionStep ≤ length) :
    (∀ start finish : Distance Exact, start.OnGrid →
      ∃ window, ofPositions start finish length = .ok window ∧ window.LiesOn length ∧
        ofPositions window.start window.finish length = .ok window) ∧
    ∀ first last : Option (Distance Exact), (∀ trim ∈ first, trim.OnGrid) →
      ∃ window, ofTrims first last length = .ok window ∧ window.LiesOn length ∧
        ofTrims (some window.start) (some window.finish) length = .ok window := by
  constructor
  · intro start finish startGrid
    obtain ⟨window, made, fitted⟩ := exists_ofPositions startGrid lengthGrid long
    exact ⟨window, made, fitted.liesOn, fitted.ofPositions lengthGrid⟩
  · intro first last grid
    obtain ⟨window, made, fitted⟩ := exists_ofTrims grid lengthGrid long
    exact ⟨window, made, fitted.liesOn, fitted.ofTrims lengthGrid⟩

/-- On a path of just one position step: a backwards window within it, and trims of which the first
lies beyond the path and the second is negative. -/
theorem windows_fitted_of_shortest :
    (Distance.stored 1000).OnGrid ∧ .positionStep ≤ Distance.stored 1000 ∧
    (∃ window, ofPositions (.stored 900) (.stored 500) (.stored 1000) = .ok window ∧
      window.LiesOn (.stored 1000) ∧
      ofPositions window.start window.finish (.stored 1000) = .ok window) ∧
    ∃ window, ofTrims (some (.stored 20000)) (some (.stored (-1))) (.stored 1000) = .ok window ∧
      window.LiesOn (.stored 1000) ∧
      ofTrims (some window.start) (some window.finish) (.stored 1000) = .ok window := by
  have long : .positionStep ≤ Distance.stored 1000 := by
    norm_num [Distance.stored]
  have fitted := windows_fitted (Distance.onGrid_stored 1000) long
  refine ⟨Distance.onGrid_stored 1000, long, ?_, ?_⟩
  · exact fitted.1 _ _ (Distance.onGrid_stored 900)
  · refine fitted.2 _ _ fun trim given => ?_
    rw [← Option.mem_some_iff.mp given]
    exact Distance.onGrid_stored 20000

end RoadSketch.Window
