import RenderSource.Proofs.Buffer.Groups
/-!
Objects of no segment class among the segments. Such an object stands between two runs of literals, and
nothing in front of it is lost or put off: what the segments in front of it fail with is what the buffer
fails with, and if they have a source then the object itself is refused by the name of its class.
-/
namespace RenderSource

namespace Segment

variable {s : Segment}

/-- The classes whose segments are told by the name of the class alone. -/
def dispatched : List String := ["RawCode", "JoinRawCode", "JoinDataSerialization", "JoinExpression"]

def Unwritten (st : Store) (v : Value) : Prop := ∀ name ∈ dispatched, v.kind st ≠ wording name

instance (st : Store) (v : Value) : Decidable (Unwritten st v) := List.decidableBAll _ _

theorem fuse_before (other : ∀ m u, s ≠ literal m u) (n : Nat) (t : Text) (front behind : List Segment) :
    fuse n t (front ++ s :: behind) = fuse n t front ++ s :: behind := by
  cases front with
  | nil => exact fuse_other n t other behind
  | cons r front =>
    rcases r.literal_or with ⟨m, u, rfl⟩ | apart
    · rw [List.cons_append, fuse, fuse]
      split <;> rfl
    · rw [List.cons_append, fuse_other n t apart, fuse_other n t apart]
      rfl

theorem groups_before (other : ∀ m u, s ≠ literal m u) (front behind : List Segment) :
    groups (front ++ s :: behind) = groups front ++ s :: groups behind := by
  induction front with
  | nil => exact groups_other other behind
  | cons r front ih =>
    rcases r.literal_or with ⟨n, t, rfl⟩ | apart
    · rw [List.cons_append, groups, groups, ih]
      exact fuse_before other n t (groups front) (groups behind)
    · rw [List.cons_append, groups_other apart, groups_other apart, ih]
      rfl

end Segment

namespace Buffer

open Segment (groups)

variable {b : Buffer} {st : Store} {f : Fault}

theorem foreignStatement_refused {v : Value} (unwritten : Segment.Unwritten st v) :
    b.foreignStatement st v = .error (.unknownSegment (v.kind st)) := by
  simp only [Segment.Unwritten, Segment.dispatched, List.forall_mem_cons] at unwritten
  obtain ⟨raw, joinRaw, data, expression, _⟩ := unwritten
  unfold foreignStatement
  rw [if_neg raw, if_neg joinRaw, if_neg data, if_neg expression]

theorem alone_foreign {v : Value} (unwritten : Segment.Unwritten st v) :
    (b.alone (.foreign v)).rows st = .error (.unknownSegment (v.kind st)) := by
  have other : ∀ n t, Segment.foreign v ≠ .literal n t := fun _ _ same => by cases same
  rw [alone_other other, segmentRows, statement, foreignStatement_refused unwritten]
  rfl

/-- Groups fail as the first of them does that fails alone. -/
theorem groupRows_error {gs : List Segment} : b.groupRows st gs = .error f ↔
    ∃ earlier g later, gs = earlier ++ g :: later ∧
      (∀ e ∈ earlier, ∃ rs, (b.alone e).rows st = .ok rs) ∧ (b.alone g).rows st = .error f := by
  constructor
  · intro failed
    induction gs with
    | nil => cases failed
    | cons g gs ih =>
      rw [groupRows_cons] at failed
      cases here : (b.alone g).rows st with
      | error e =>
        rw [here] at failed
        cases failed
        exact ⟨[], g, gs, rfl, List.forall_mem_nil _, here⟩
      | ok rs =>
        rw [here] at failed
        cases behind : b.groupRows st gs with
        | ok later =>
          rw [behind] at failed
          cases failed
        | error e =>
          rw [behind] at failed
          cases failed
          obtain ⟨earlier, h, later, rfl, written, fails⟩ := ih behind
          exact ⟨g :: earlier, h, later, rfl, List.forall_mem_cons.mpr ⟨⟨rs, here⟩, written⟩, fails⟩
  · rintro ⟨earlier, g, later, rfl, written, fails⟩
    induction earlier with
    | nil =>
      rw [List.nil_append, groupRows_cons, fails]
      rfl
    | cons e earlier ih =>
      obtain ⟨⟨rs, here⟩, more⟩ := List.forall_mem_cons.mp written
      rw [List.cons_append, groupRows_cons, here, ih more]
      rfl

theorem source_groupRows (segments : List Segment) :
    { b with segments := segments }.source st = (b.groupRows st (groups segments)).map Text.ofRows := by
  have nothing_held : Segment.held none ++ segments = segments := rfl
  rw [source_with, rowsAfter_groups, nothing_held]
  cases b.groupRows st (groups segments) with
  | error e => rfl
  | ok rs => rfl

/-- A buffer with an object of no segment class has no source, wherever the object stands. If the segments
in front of it have one, the object is refused by its class; otherwise the buffer fails as they do, which is
as the first group of them does that fails alone. -/
theorem source_foreign (b : Buffer) (st : Store) (front behind : List Segment) (v : Value)
    (unwritten : Segment.Unwritten st v) :
    { b with segments := front ++ Segment.foreign v :: behind }.source st =
        (match { b with segments := front }.source st with
        | .ok _ => .error (.unknownSegment (v.kind st))
        | .error f => .error f) ∧
      ∀ f, { b with segments := front }.source st = .error f ↔
        ∃ earlier g later, groups front = earlier ++ g :: later ∧
          (∀ e ∈ earlier, ∃ rs, (b.alone e).rows st = .ok rs) ∧ (b.alone g).rows st = .error f := by
  have other : ∀ n t, Segment.foreign v ≠ .literal n t := fun _ _ same => by cases same
  constructor
  · rw [source_groupRows, source_groupRows, Segment.groups_before other, groupRows_append, groupRows_cons,
      alone_foreign unwritten]
    cases b.groupRows st (groups front) with
    | error f => rfl
    | ok rs => rfl
  · intro f
    rw [← groupRows_error, source_groupRows]
    cases b.groupRows st (groups front) with
    | error e => simp [Except.map]
    | ok rs => simp [Except.map]

def likeLiteral : Store :=
  ⟨#[.object (wording "JoinLiteral") none [(wording "depth", .held (.ofInt 0)), (wording "text", .held (.ofText (wording "x")))]], #[]⟩

/-- It is refused between two literals, as anywhere, and neither does a literal become one with the other
nor does an object of a third class behind it count. -/
theorem likeLiteral_refused :
    Segment.Unwritten likeLiteral (.ref 0) ∧
      { ofConfig Config.standard with
          segments := [.literal 0 (wording "a"), .foreign (.ref 0), .literal 0 (wording "b"), .foreign .none] }.source
        likeLiteral = .error (.unknownSegment (wording "JoinLiteral")) := by
  have unwritten : Segment.Unwritten likeLiteral (.ref 0) := by decide
  have front : { ofConfig Config.standard with segments := [.literal 0 (wording "a")] }.source likeLiteral =
      .ok (wording "html += \"a\"") := by decide
  refine ⟨unwritten, ?_⟩
  have refused := (source_foreign (ofConfig Config.standard) likeLiteral [.literal 0 (wording "a")]
    [.literal 0 (wording "b"), .foreign .none] (.ref 0) unwritten).1
  rw [front] at refused
  exact refused

/-- An object of a class that is only named as one of the segments is written as if it were one. -/
theorem foreign_named_written :
    { ofConfig Config.standard with segments := [.foreign (.ref 0)] }.source
        ⟨#[.object (wording "RawCode") none [(wording "depth", .held (.ofInt 0)), (wording "text", .held (.ofText (wording "x")))]], #[]⟩ =
      .ok (wording "x") := by
  decide

end Buffer

end RenderSource
