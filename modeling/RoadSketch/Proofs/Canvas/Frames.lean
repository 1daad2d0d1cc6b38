import Mathlib.Data.List.Basic
import RoadSketch.Canvas.Command

/-!
# Framed drawings

A drawing is framed if its pushes and pops match and every transform lies between a push and its
pop. A framed drawing leaves the transforms in force as they were, whatever they were.

The grammar of framed drawings is closed under concatenation, so that a drawing is framed if its
parts are. What it says about prefixes, transforms and balance is read off a run of the canvas.
-/
namespace RoadSketch

variable {α : Type}

namespace Command

/-- Does a command transform what follows it? -/
def isMove : Command α → Bool
  | .translate .. | .rotate .. => true
  | _ => false

/-- Does a command leave the transforms alone? -/
def isMark : Command α → Bool
  | .pushTransform | .popTransform | .translate .. | .rotate .. => false
  | _ => true

def isPush : Command α → Bool
  | .pushTransform => true
  | _ => false

def isPop : Command α → Bool
  | .popTransform => true
  | _ => false

end Command

/-- The transforms in force, outermost first, and those that the open pushes have saved, latest
first. -/
structure TransformStack (α : Type) where
  current : Drawing α
  saved : List (Drawing α)

namespace TransformStack

/-- What a command makes of the transforms; nothing for a pop without a push. -/
def step? (stack : TransformStack α) : Command α → Option (TransformStack α)
  | .pushTransform => some ⟨stack.current, stack.current :: stack.saved⟩
  | .popTransform =>
    match stack.saved with
    | [] => none
    | latest :: earlier => some ⟨latest, earlier⟩
  | command => some (if command.isMove then ⟨stack.current ++ [command], stack.saved⟩ else stack)

def after? (stack : TransformStack α) (drawing : Drawing α) : Option (TransformStack α) :=
  drawing.foldlM step? stack

theorem step?_of_isMark {command : Command α} (marks : command.isMark) (stack : TransformStack α) :
    stack.step? command = some stack := by
  cases command <;> simp_all [step?, Command.isMark, Command.isMove]

theorem step?_of_isMove {command : Command α} (moves : command.isMove) (stack : TransformStack α) :
    stack.step? command = some ⟨stack.current ++ [command], stack.saved⟩ := by
  cases command <;> simp_all [step?, Command.isMove]

@[simp] theorem after?_nil (stack : TransformStack α) : stack.after? [] = some stack := rfl

theorem after?_cons (stack : TransformStack α) (command : Command α) (rest : Drawing α) :
    stack.after? (command :: rest) = (stack.step? command).bind (·.after? rest) := by
  simp [after?]

theorem after?_append (stack : TransformStack α) (early late : Drawing α) :
    stack.after? (early ++ late) = (stack.after? early).bind (·.after? late) := by
  simp [after?, List.foldlM_append]

/-- A step opens and closes as many pushes as it is a push and a pop. -/
theorem length_saved_of_step? {stack next : TransformStack α} {command : Command α}
    (stepped : stack.step? command = some next) :
    next.saved.length + [command].countP Command.isPop =
      stack.saved.length + [command].countP Command.isPush := by
  cases command with
  | pushTransform =>
    cases stepped
    simp [Command.isPush, Command.isPop]
  | popTransform =>
    obtain ⟨current, saved⟩ := stack
    cases saved with
    | nil => cases stepped
    | cons latest earlier =>
      cases stepped
      simp [Command.isPush, Command.isPop]
  | _ =>
    simp only [step?, Option.some.injEq] at stepped
    subst next
    simp [Command.isPush, Command.isPop, Command.isMove]

/-- The pushes that are open after a run are those that were open before and those opened in it. -/
theorem length_saved_of_after? {stack last : TransformStack α} {drawing : Drawing α}
    (ran : stack.after? drawing = some last) :
    last.saved.length + drawing.countP Command.isPop =
      stack.saved.length + drawing.countP Command.isPush := by
  induction drawing generalizing stack with
  | nil =>
    cases ran
    rfl
  | cons command rest ih =>
    rw [after?_cons, Option.bind_eq_some_iff] at ran
    obtain ⟨next, stepped, ran⟩ := ran
    have first := length_saved_of_step? stepped
    have others := ih ran
    rw [← List.singleton_append, List.countP_append, List.countP_append]
    omega

end TransformStack

namespace Drawing

/-- Drawings in which pushes and pops match. Those that go inside a frame may transform what
follows, and others only what is inside a frame of their own. -/
inductive Framed : Bool → Drawing α → Prop
  | nil {inside : Bool} : Framed inside []
  | mark {inside : Bool} {command : Command α} {rest : Drawing α} (marks : command.isMark)
      (tail : Framed inside rest) : Framed inside (command :: rest)
  | move {command : Command α} {rest : Drawing α} (moves : command.isMove)
      (tail : Framed true rest) : Framed true (command :: rest)
  | frame {inside : Bool} {body rest : Drawing α} (within : Framed true body)
      (tail : Framed inside rest) : Framed inside (isolated body ++ rest)

/-! ### Making framed drawings -/

theorem Framed.append {inside : Bool} {early late : Drawing α} (first : Framed inside early)
    (second : Framed inside late) : Framed inside (early ++ late) := by
  revert second
  induction first with
  | nil => exact id
  | mark marks _ ih => exact fun second => .mark marks (ih second)
  | move moves _ ih => exact fun second => .move moves (ih second)
  | frame within _ _ ih =>
    intro second
    rw [List.append_assoc]
    exact .frame within (ih second)

theorem Framed.flatten {inside : Bool} {drawings : List (Drawing α)}
    (framed : ∀ drawing ∈ drawings, Framed inside drawing) : Framed inside drawings.flatten := by
  induction drawings with
  | nil => exact .nil
  | cons first rest ih =>
    rw [List.flatten_cons]
    exact (framed first List.mem_cons_self).append
      (ih fun drawing member => framed drawing (List.mem_cons_of_mem first member))

/-- What leaves the transforms alone is framed. -/
theorem framed_of_marks {inside : Bool} {drawing : Drawing α}
    (marks : ∀ command ∈ drawing, command.isMark) : Framed inside drawing := by
  induction drawing with
  | nil => exact .nil
  | cons command rest ih =>
    exact .mark (marks command List.mem_cons_self)
      (ih fun other member => marks other (List.mem_cons_of_mem command member))

theorem Framed.isolated {inside : Bool} {body : Drawing α} (within : Framed true body) :
    Framed inside (isolated body) := by
  rw [← List.append_nil (Drawing.isolated body)]
  exact .frame within .nil

theorem Framed.onLayer {inside : Bool} {layer : α} [Scalar α] {body : Drawing α}
    (within : Framed true body) : Framed inside (onLayer layer body) :=
  .isolated (.move rfl within)

/-! ### What is true of framed drawings -/

/-- A framed drawing closes every push that it opens. What goes inside a frame may leave further
transforms in force, and others leave those that were. -/
theorem Framed.after? {inside : Bool} {drawing : Drawing α} (framed : Framed inside drawing)
    (stack : TransformStack α) :
    ∃ current, stack.after? drawing = some ⟨current, stack.saved⟩ ∧
      (inside = false → current = stack.current) := by
  induction framed generalizing stack with
  | nil => exact ⟨stack.current, rfl, fun _ => rfl⟩
  | mark marks _ ih =>
    rw [TransformStack.after?_cons, TransformStack.step?_of_isMark marks, Option.bind_some]
    exact ih stack
  | @move command rest moves _ ih =>
    rw [TransformStack.after?_cons, TransformStack.step?_of_isMove moves, Option.bind_some]
    obtain ⟨current, ran, _⟩ := ih ⟨stack.current ++ [command], stack.saved⟩
    exact ⟨current, ran, nofun⟩
  | @frame inside body rest _ _ bodyRuns restRuns =>
    -- The push saves what was in force, and its pop brings it back.
    obtain ⟨moved, ran, _⟩ := bodyRuns ⟨stack.current, stack.current :: stack.saved⟩
    have back : stack.after? (Drawing.isolated body) = some stack := by
      rw [Drawing.isolated, List.cons_append, TransformStack.after?_cons]
      simp only [TransformStack.step?, Option.bind_some, TransformStack.after?_append, ran,
        TransformStack.after?_cons, TransformStack.after?_nil]
    rw [TransformStack.after?_append, back, Option.bind_some]
    exact restRuns stack

/-- The transforms in force after a framed drawing are those in force before it. -/
theorem Framed.restores {drawing : Drawing α} (framed : Framed false drawing)
    (stack : TransformStack α) : stack.after? drawing = some stack := by
  obtain ⟨current, ran, same⟩ := framed.after? stack
  rw [ran, same rfl]

theorem Framed.countP_isPop {inside : Bool} {drawing : Drawing α} (framed : Framed inside drawing) :
    drawing.countP Command.isPop = drawing.countP Command.isPush := by
  obtain ⟨current, ran, _⟩ := framed.after? ⟨[], []⟩
  simpa using TransformStack.length_saved_of_after? ran

/-- In no beginning of a framed drawing do pops outnumber pushes. -/
theorem Framed.countP_isPop_le {inside : Bool} {early late : Drawing α}
    (framed : Framed inside (early ++ late)) :
    early.countP Command.isPop ≤ early.countP Command.isPush := by
  obtain ⟨current, ran, _⟩ := framed.after? ⟨[], []⟩
  rw [TransformStack.after?_append, Option.bind_eq_some_iff] at ran
  obtain ⟨middle, ran, _⟩ := ran
  have counted := TransformStack.length_saved_of_after? ran
  simp only [List.length_nil] at counted
  omega

/-- The balance of a drawing does not depend on framed drawings at its end. -/
theorem Framed.balancedFrom_append {inside : Bool} {late : Drawing α} (framed : Framed inside late)
    (depth : Nat) (rest : Drawing α) :
    balancedFrom depth (late ++ rest) = balancedFrom depth rest := by
  induction framed generalizing depth rest with
  | nil => rfl
  | @mark _ command _ marks _ ih =>
    cases command <;> simp_all [balancedFrom, Command.isMark]
  | @move command _ moves _ ih =>
    cases command <;> simp_all [balancedFrom, Command.isMove]
  | frame _ _ bodyIh restIh =>
    simp only [Drawing.isolated, List.cons_append, List.append_assoc, List.nil_append, balancedFrom,
      bodyIh, restIh]

theorem Framed.isBalanced {inside : Bool} {drawing : Drawing α} (framed : Framed inside drawing) :
    drawing.isBalanced := by
  have balanced := framed.balancedFrom_append 0 []
  rw [List.append_nil] at balanced
  simp [Drawing.isBalanced, balanced, balancedFrom]

theorem Framed.isBalanced_append {inside : Bool} {late : Drawing α} (framed : Framed inside late)
    (early : Drawing α) : (early ++ late).isBalanced = early.isBalanced := by
  have unchanged (depth : Nat) : balancedFrom depth (early ++ late) = balancedFrom depth early := by
    induction early generalizing depth with
    | nil => simpa using framed.balancedFrom_append depth []
    | cons command rest ih =>
      cases command with
      | popTransform => cases depth <;> simp [balancedFrom, ih]
      | _ => simp [balancedFrom, ih]
  exact unchanged 0

/-- What comes before and after a command that lies between a push and the pop that belongs to it. -/
def Enclosed (early late : Drawing α) : Prop :=
  ∃ before opened closed after : Drawing α,
    early = before ++ .pushTransform :: opened ∧ late = closed ++ .popTransform :: after ∧
      opened.isBalanced ∧ closed.isBalanced

theorem Enclosed.extend {early late : Drawing α} (enclosed : Enclosed early late)
    (further more : Drawing α) : Enclosed (further ++ early) (late ++ more) := by
  obtain ⟨before, opened, closed, after, rfl, rfl, openedBalanced, closedBalanced⟩ := enclosed
  exact ⟨further ++ before, opened, closed, after ++ more, by simp, by simp, openedBalanced,
    closedBalanced⟩

/-- A transform in a drawing that starts with a frame lies inside that frame or after it. -/
theorem move_in_frame {body rest early late : Drawing α} {command : Command α}
    (split : isolated body ++ rest = early ++ command :: late) (moves : command.isMove) :
    (∃ left right, body = left ++ command :: right ∧ early = .pushTransform :: left ∧
      late = right ++ .popTransform :: rest) ∨
    ∃ left, rest = left ++ command :: late ∧ early = isolated body ++ left := by
  rw [isolated, List.cons_append, List.cons_append, List.append_assoc] at split
  rcases List.cons_eq_append_iff.mp split with ⟨rfl, here⟩ | ⟨early, rfl, afterPush⟩
  · obtain ⟨rfl, rfl⟩ := List.cons.inj here
    cases moves
  rcases List.append_eq_append_iff.mp afterPush with ⟨left, rfl, fromPop⟩ | ⟨right, rfl, toPop⟩
  · rcases List.cons_eq_append_iff.mp fromPop with ⟨rfl, here⟩ | ⟨left, rfl, later⟩
    · obtain ⟨rfl, rfl⟩ := List.cons.inj here
      cases moves
    · exact .inr ⟨left, later, by simp [isolated]⟩
  · rcases List.cons_eq_append_iff.mp toPop with ⟨rfl, here⟩ | ⟨right, rfl, later⟩
    · obtain ⟨rfl, rfl⟩ := List.cons.inj here
      cases moves
    · exact .inl ⟨early, right, rfl, rfl, later⟩

/-- A transform is enclosed, or it lies between two drawings that go inside a frame. -/
theorem Framed.move_cases {inside : Bool} {drawing early late : Drawing α} {command : Command α}
    (framed : Framed inside drawing) (split : drawing = early ++ command :: late)
    (moves : command.isMove) :
    Enclosed early late ∨ (inside = true ∧ Framed true early ∧ Framed true late) := by
  induction framed generalizing early late with
  | nil => simp at split
  | @mark inside first rest marks tail ih =>
    rcases List.cons_eq_append_iff.mp split with ⟨rfl, here⟩ | ⟨early, rfl, later⟩
    · obtain ⟨rfl, rfl⟩ := List.cons.inj here
      cases command <;> simp_all [Command.isMark, Command.isMove]
    · rcases ih later with enclosed | ⟨allowed, before, after⟩
      · exact .inl (by simpa using enclosed.extend [first] [])
      · exact .inr ⟨allowed, .mark marks before, after⟩
  | @move first rest firstMoves tail ih =>
    rcases List.cons_eq_append_iff.mp split with ⟨rfl, here⟩ | ⟨early, rfl, later⟩
    · obtain ⟨rfl, rfl⟩ := List.cons.inj here
      exact .inr ⟨rfl, .nil, tail⟩
    · rcases ih later with enclosed | ⟨allowed, before, after⟩
      · exact .inl (by simpa using enclosed.extend [first] [])
      · exact .inr ⟨allowed, .move firstMoves before, after⟩
  | @frame inside body rest within tail bodyIh restIh =>
    rcases move_in_frame split moves with ⟨left, right, inBody, rfl, rfl⟩ | ⟨left, later, rfl⟩
    · left
      rcases bodyIh inBody with enclosed | ⟨_, before, after⟩
      · simpa using enclosed.extend [.pushTransform] (.popTransform :: rest)
      · exact ⟨[], left, right, rest, rfl, rfl, before.isBalanced, after.isBalanced⟩
    · rcases restIh later with enclosed | ⟨allowed, before, after⟩
      · exact .inl (by simpa using enclosed.extend (Drawing.isolated body) [])
      · exact .inr ⟨allowed, .frame within before, after⟩

end Drawing

end RoadSketch
