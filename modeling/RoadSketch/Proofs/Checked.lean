import Mathlib.Data.List.Forall2
import RoadSketch.Fault

/-!
# Checked operations

What a result of an operation that may stop with a fault says about the operations it is put
together from.
-/
namespace RoadSketch.Checked

variable {ε α β : Type}

@[simp] theorem pure_eq_ok {a b : α} : (pure a : Except ε α) = .ok b ↔ a = b := by
  simp [pure, Except.pure]

@[simp] theorem ok_bind {a : α} {f : α → Except ε β} : Except.ok a >>= f = f a := rfl

@[simp] theorem bind_eq_ok {x : Except ε α} {f : α → Except ε β} {b : β} :
    x >>= f = .ok b ↔ ∃ a, x = .ok a ∧ f a = .ok b := by
  cases x with
  | error fault => simp [bind, Except.bind]
  | ok a => simp [bind, Except.bind]

theorem exists_of_isOk {x : Except ε α} (returns : x.isOk = true) : ∃ a, x = .ok a := by
  cases x with
  | error fault => cases returns
  | ok a => exact ⟨a, rfl⟩

/-- A traversal has a result iff every element has one, and collects them in order. -/
theorem mapM_eq_ok {f : α → Except ε β} {xs : List α} {ys : List β} :
    xs.mapM f = .ok ys ↔ List.Forall₂ (fun x y => f x = .ok y) xs ys := by
  induction xs generalizing ys with
  | nil => rw [List.mapM_nil, pure_eq_ok, List.forall₂_nil_left_iff, eq_comm]
  | cons x xs ih =>
    simp only [List.mapM_cons, bind_eq_ok, pure_eq_ok, ih, List.forall₂_cons_left_iff]
    constructor
    · rintro ⟨y, first, rest, others, rfl⟩
      exact ⟨y, rest, first, others, rfl⟩
    · rintro ⟨y, rest, first, others, rfl⟩
      exact ⟨y, first, rest, others, rfl⟩

/-- A traversal by a function that always has a result maps its results. -/
theorem mapM_eq_map {f : α → Except ε β} {g : α → β} {xs : List α}
    (each : ∀ x ∈ xs, f x = .ok (g x)) : xs.mapM f = .ok (xs.map g) :=
  mapM_eq_ok.mpr (List.forall₂_map_right_iff.mpr (List.forall₂_same.mpr each))

theorem exists_mapM_of_mem {f : α → Except ε β} {xs : List α}
    (each : ∀ x ∈ xs, ∃ y, f x = .ok y) : ∃ ys, xs.mapM f = .ok ys := by
  induction xs with
  | nil => exact ⟨[], rfl⟩
  | cons x xs ih =>
    obtain ⟨y, first⟩ := each x List.mem_cons_self
    obtain ⟨ys, others⟩ := ih fun x member => each x (List.mem_cons_of_mem _ member)
    exact ⟨y :: ys, by rw [List.mapM_cons, first, ok_bind, others]; rfl⟩

theorem exists_mapM {f : α → Except ε β} (xs : List α) (each : ∀ x, ∃ y, f x = .ok y) :
    ∃ ys, xs.mapM f = .ok ys := exists_mapM_of_mem fun x _ => each x

theorem exists_foldlM {step : β → α → Except ε β} (xs : List α) (start : β)
    (each : ∀ b x, ∃ c, step b x = .ok c) : ∃ finish, xs.foldlM step start = .ok finish := by
  induction xs generalizing start with
  | nil => exact ⟨start, rfl⟩
  | cons x xs ih =>
    obtain ⟨next, made⟩ := each start x
    obtain ⟨finish, ran⟩ := ih next
    exact ⟨finish, by rw [List.foldlM_cons, made, ok_bind, ran]⟩

theorem length_of_mapM {f : α → Except ε β} {xs : List α} {ys : List β}
    (collected : xs.mapM f = .ok ys) : ys.length = xs.length :=
  (mapM_eq_ok.mp collected).length_eq.symm

theorem getElem?_of_mapM {f : α → Except ε β} {xs : List α} {ys : List β}
    (collected : xs.mapM f = .ok ys) {i : Nat} {x : α} (here : xs[i]? = some x) :
    ∃ y, f x = .ok y ∧ ys[i]? = some y := by
  have related := mapM_eq_ok.mp collected
  clear collected
  induction related generalizing i with
  | nil => simp at here
  | @cons first y rest ys found _ ih =>
    cases i with
    | zero =>
      simp only [List.getElem?_cons_zero, Option.some.injEq] at here
      exact ⟨y, here ▸ found, rfl⟩
    | succ i =>
      simp only [List.getElem?_cons_succ] at here ⊢
      exact ih here

theorem exists_of_mem_mapM {f : α → Except ε β} {xs : List α} {ys : List β}
    (collected : xs.mapM f = .ok ys) {y : β} (member : y ∈ ys) : ∃ x ∈ xs, f x = .ok y := by
  have related := mapM_eq_ok.mp collected
  clear collected
  induction related with
  | nil => cases member
  | cons made _ ih =>
    rcases List.mem_cons.mp member with rfl | later
    · exact ⟨_, List.mem_cons_self, made⟩
    · obtain ⟨x, earlier, made⟩ := ih later
      exact ⟨x, List.mem_cons_of_mem _ earlier, made⟩

/-- What every step of a run keeps, given the elements consumed before, holds after the run. -/
theorem foldlM_induction {step : β → α → Except ε β} (motive : List α → β → Prop)
    {start finish : β} {xs : List α} (initial : motive [] start)
    (preserved : ∀ done x b c, x ∈ xs → motive done b → step b x = .ok c → motive (done ++ [x]) c)
    (ran : xs.foldlM step start = .ok finish) : motive xs finish := by
  suffices general : ∀ rest done b, (∀ x ∈ rest, x ∈ xs) → motive done b →
      rest.foldlM step b = .ok finish → motive (done ++ rest) finish from
    general xs [] start (fun _ member => member) initial ran
  intro rest
  induction rest with
  | nil =>
    intro done b _ held ended
    simp only [List.foldlM_nil, pure_eq_ok] at ended
    subst finish
    simpa using held
  | cons x rest ih =>
    intro done b within held ended
    simp only [List.foldlM_cons, bind_eq_ok] at ended
    obtain ⟨c, made, ended⟩ := ended
    have kept := preserved done x b c (within x List.mem_cons_self) held made
    simpa using
      ih (done ++ [x]) c (fun y member => within y (List.mem_cons_of_mem x member)) kept ended

/-! ### Operations that agree -/

section
variable {γ δ ζ : Type}

/-- Two operations stop with the same fault, or have results that are related. -/
inductive Agree (related : α → β → Prop) : Except ε α → Except ε β → Prop where
  | error (fault : ε) : Agree related (.error fault) (.error fault)
  | ok {a : α} {b : β} (results : related a b) : Agree related (.ok a) (.ok b)

theorem Agree.refl (x : Except ε α) : Agree (· = ·) x x := by
  cases x with
  | error fault => exact .error fault
  | ok a => exact .ok rfl

theorem Agree.eq {x y : Except ε α} (agree : Agree (· = ·) x y) : x = y := by
  cases agree with
  | error fault => rfl
  | ok same => rw [same]

theorem Agree.bind {related : α → β → Prop} {follow : γ → δ → Prop} {x : Except ε α}
    {y : Except ε β} {f : α → Except ε γ} {g : β → Except ε δ} (first : Agree related x y)
    (next : ∀ a b, related a b → Agree follow (f a) (g b)) : Agree follow (x >>= f) (y >>= g) := by
  cases first with
  | error fault => exact .error fault
  | ok results => exact next _ _ results

theorem Agree.exists_ok {related : α → β → Prop} {x : Except ε α} {y : Except ε β} {a : α}
    (agree : Agree related x y) (made : x = .ok a) : ∃ b, y = .ok b ∧ related a b := by
  cases agree with
  | error fault => cases made
  | ok results =>
    cases made
    exact ⟨_, rfl, results⟩

/-- An element that has a result anyway adds that result in its place. -/
theorem Agree.mapM_insert (f : α → Except ε β) {x : α} {y : β} (made : f x = .ok y)
    (before after : List α) :
    Agree (fun ys zs => ∃ front back, front.length = before.length ∧ back.length = after.length ∧
      ys = front ++ back ∧ zs = front ++ y :: back)
      ((before ++ after).mapM f) ((before ++ x :: after).mapM f) := by
  simp only [List.mapM_append, List.mapM_cons, made, ok_bind]
  cases collected : before.mapM f with
  | error fault => exact .error fault
  | ok front =>
    cases others : after.mapM f with
    | error fault => exact .error fault
    | ok back =>
      exact .ok ⟨front, back, length_of_mapM collected, length_of_mapM others, rfl, rfl⟩

end

end RoadSketch.Checked
