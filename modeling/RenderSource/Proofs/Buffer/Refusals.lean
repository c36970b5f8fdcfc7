import RenderSource.Buffer.Basic
/-!
Operations on a buffer one after the other, where one that is refused is passed over and the next one is
taken. A refused operation leaves the buffer as it was, but for the end of a renderer where none is open: that
one has its statement appended before it is refused.
-/
namespace RenderSource

inductive Operation
  | raw (t : Text)
  | joinRaw (code : Text)
  | literal (t : Text)
  | data
  | expression (d : Descriptor)
  | start
  | finish
  | indent
  | dedent
  | source

abbrev Answer := Except Fault (Option Text)

namespace Operation

def depthBehind (n : Nat) : Operation → Nat
  | start | indent => n + 1
  | finish | dedent => n - 1
  | _ => n

/-- Whether operations that begin at depth `n` end a renderer only where a block is open. -/
def EndsInside : Nat → List Operation → Prop
  | _, [] => True
  | n, o :: os => (o = finish → n ≠ 0) ∧ EndsInside (o.depthBehind n) os

end Operation

namespace Buffer

def operate (st : Store) (b : Buffer) : Operation → Buffer × Answer
  | .raw t => (b.appendRaw t, .ok none)
  | .joinRaw code => (b.appendJoinRaw code, .ok none)
  | .literal t => (b.appendLiteral t, .ok none)
  | .data => (b.appendData, .ok none)
  | .expression d => (b.appendExpression d, .ok none)
  | .start => (b.appendStart, .ok none)
  | .finish => (b.appendEnd.1, b.appendEnd.2.map fun _ => none)
  | .indent => (b.indent, .ok none)
  | .dedent => match b.dedent with
    | .ok later => (later, .ok none)
    | .error f => (b, .error f)
  | .source => (b, (b.source st).map some)

def operateAll (st : Store) (b : Buffer) : List Operation → Buffer × List Answer
  | [] => (b, [])
  | o :: os =>
    let (later, answer) := b.operate st o
    let (last, answers) := later.operateAll st os
    (last, answer :: answers)

/-- The operations of a run that are not refused in it. -/
def accepted (st : Store) (b : Buffer) : List Operation → List Operation
  | [] => []
  | o :: os =>
    let (later, answer) := b.operate st o
    if answer.isOk then o :: later.accepted st os else later.accepted st os

variable {st : Store} {b : Buffer} {o : Operation} {f : Fault}

theorem refused_cases (refused : (b.operate st o).2 = .error f) :
    (o = .dedent ∧ b.depth = 0) ∨ (o = .finish ∧ b.depth = 0) ∨ (o = .source ∧ b.source st = .error f) := by
  cases o with
  | dedent =>
    by_cases outside : b.depth = 0
    · exact .inl ⟨rfl, outside⟩
    · simp [operate, dedent, outside] at refused
  | finish =>
    by_cases outside : b.depth = 0
    · exact .inr (.inl ⟨rfl, outside⟩)
    · simp [operate, appendEnd, appendRaw, append, dedent, outside, Except.map] at refused
  | source =>
    refine .inr (.inr ⟨rfl, ?_⟩)
    rw [operate] at refused
    cases written : b.source st with
    | error g =>
      rw [written] at refused
      cases refused
      rfl
    | ok t =>
      rw [written] at refused
      cases refused
  | _ => cases refused

theorem refused_same (refused : (b.operate st o).2 = .error f) (inside : o = .finish → b.depth ≠ 0) :
    (b.operate st o).1 = b := by
  rcases refused_cases refused with ⟨rfl, outside⟩ | ⟨rfl, outside⟩ | ⟨rfl, _⟩
  · simp [operate, dedent, outside]
  · exact absurd outside (inside rfl)
  · rfl

theorem operate_depth (st : Store) (b : Buffer) (o : Operation) :
    (b.operate st o).1.depth = o.depthBehind b.depth := by
  cases o with
  | dedent =>
    by_cases outside : b.depth = 0
    · simp [operate, dedent, outside, Operation.depthBehind]
    · simp [operate, dedent, outside, Operation.depthBehind]
  | finish =>
    by_cases outside : b.depth = 0
    · simp [operate, appendEnd, appendRaw, append, dedent, outside, Operation.depthBehind]
    · simp [operate, appendEnd, appendRaw, append, dedent, outside, Operation.depthBehind]
  | _ => rfl

/-- Passing over what is refused gives the same buffer and the same answers as never trying it. -/
theorem operateAll_accepted {os : List Operation} (inside : Operation.EndsInside b.depth os) :
    b.operateAll st (b.accepted st os) =
      ((b.operateAll st os).1, (b.operateAll st os).2.filter Except.isOk) := by
  induction os generalizing b with
  | nil => rfl
  | cons o os ih =>
    obtain ⟨here, later⟩ := inside
    rw [← operate_depth st b o] at later
    have rest := ih later
    cases answer : (b.operate st o).2 with
    | ok t? =>
      simp only [accepted, operateAll, answer, Except.isOk, Except.toBool, ↓reduceIte, List.filter_cons, rest]
    | error f =>
      rw [refused_same answer here] at rest
      simp only [accepted, operateAll, answer, Except.isOk, Except.toBool, Bool.false_eq_true, ↓reduceIte,
        List.filter_cons, refused_same answer here, rest]

/-- An operation that is refused leaves the depth and the segments of any buffer as they were, so a run comes to
the same as the run of what is accepted in it; renderers have to be ended only where a block is open. -/
theorem refusals_unchanged (st : Store) :
    (∀ (b : Buffer) (o : Operation) (f : Fault), (b.operate st o).2 = .error f → (o = .finish → b.depth ≠ 0) →
      (b.operate st o).1.depth = b.depth ∧ (b.operate st o).1.segments = b.segments) ∧
    ∀ (b : Buffer) (os : List Operation), Operation.EndsInside b.depth os →
      b.operateAll st (b.accepted st os) =
        ((b.operateAll st os).1, (b.operateAll st os).2.filter Except.isOk) := by
  constructor
  · intro b o f refused inside
    rw [refused_same refused inside]
    exact ⟨rfl, rfl⟩
  · intro b os inside
    exact operateAll_accepted inside

def strayedRun : List Operation :=
  [.dedent, .start, .expression (.call (wording "1") []), .source, .finish, .dedent]

theorem refusals_unchanged_strayed :
    ((ofConfig .standard).operate .empty .dedent).2 = .error .unmatchedDedent ∧
    ((ofConfig .standard).operate .empty .dedent).1.segments = (ofConfig .standard).segments ∧
    Operation.EndsInside 0 strayedRun ∧
    (ofConfig .standard).operateAll .empty ((ofConfig .standard).accepted .empty strayedRun) =
      (((ofConfig .standard).operateAll .empty strayedRun).1,
        ((ofConfig .standard).operateAll .empty strayedRun).2.filter Except.isOk) := by
  have refused : ((ofConfig .standard).operate .empty .dedent).2 = .error .unmatchedDedent := rfl
  have inside : Operation.EndsInside 0 strayedRun := by
    simp [strayedRun, Operation.EndsInside, Operation.depthBehind]
  have unchanged := refusals_unchanged .empty
  exact ⟨refused, (unchanged.1 _ .dedent _ refused (by simp)).2, inside, unchanged.2 (ofConfig .standard) _ inside⟩

/-- The end of a renderer that has not begun is refused with its statement in the buffer. -/
theorem refusals_unchanged_fails : ((ofConfig .standard).operate .empty .finish).2 = .error .unmatchedDedent ∧
    ((ofConfig .standard).operate .empty .finish).1.segments ≠ (ofConfig .standard).segments := by
  refine ⟨rfl, fun same => ?_⟩
  have length := congrArg List.length same
  simp [operate, appendEnd, appendRaw, append, dedent, ofConfig] at length

end Buffer

end RenderSource
