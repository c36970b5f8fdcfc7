import RenderSource.Proofs.Buffer.Cutting
import RenderSource.Proofs.Buffer.Refusals
/-!
The version in the source of a buffer. It is in one row of each library that was appended; all other rows,
and whether there is a source at all, are the same for every version.
-/
namespace RenderSource

/-- A row of source: the same for every version, or one that holds it behind blanks. -/
inductive StampedRow
  | fixed (r : Text)
  | version (indent : Text)

def StampedRow.text (v : Text) : StampedRow → Text
  | fixed r => r
  | version indent => indent ++ Library.versionFront ++ v.quote

inductive StampedSegment
  | fixed (s : Segment)
  | library (depth : Nat)

def StampedSegment.segment (v : Option Text) : StampedSegment → Segment
  | fixed s => s
  | library n => .raw n (Library.stamped v)

/-- Rows that depend on a version in the rows that hold it only. -/
def Stamps (rows : Option Text → Except Fault (List Text)) : Prop :=
  ∃ out : Except Fault (List StampedRow),
    ∀ v, rows v = out.map (List.map (StampedRow.text (v.getD Library.placeholder)))

namespace Stamps

theorem map_fixed (v : Text) (rs : List Text) : (rs.map StampedRow.fixed).map (StampedRow.text v) = rs := by
  rw [List.map_map]
  exact List.map_id rs

theorem congr {f g : Option Text → Except Fault (List Text)} (rows : Stamps f) (same : ∀ v, g v = f v) :
    Stamps g := by
  obtain ⟨out, each⟩ := rows
  exact ⟨out, fun v => (same v).trans (each v)⟩

theorem const (x : Except Fault (List Text)) : Stamps fun _ => x := by
  refine ⟨x.map (List.map .fixed), fun v => ?_⟩
  cases x with
  | error f => rfl
  | ok rs => exact congrArg Except.ok (map_fixed _ rs).symm

theorem append {f g : Option Text → Except Fault (List Text)} (first : Stamps f) (later : Stamps g) :
    Stamps fun v => do
      let rs ← f v
      return rs ++ (← g v) := by
  obtain ⟨out, first⟩ := first
  obtain ⟨out', later⟩ := later
  refine ⟨do return (← out) ++ (← out'), fun v => ?_⟩
  simp only [first, later]
  cases out with
  | error e => rfl
  | ok rs =>
    cases out' with
    | error e => rfl
    | ok rs' => exact congrArg Except.ok List.map_append.symm

theorem library (indent? : Except Fault Text) :
    Stamps fun v => indent?.map fun indent => Layout.rows indent (Library.stamped v) := by
  refine ⟨indent?.map fun indent => (Library.frontPlaced indent).map .fixed ++
    .version indent :: (Library.backPlaced indent).map .fixed, fun v => ?_⟩
  cases indent? with
  | error e => rfl
  | ok indent =>
    refine congrArg Except.ok ?_
    dsimp only
    rw [Library.rows_placed, Library.placedRows, List.map_append, List.map_cons, map_fixed, map_fixed]
    rfl

end Stamps

namespace Buffer

def stamped (b : Buffer) (forms : List StampedSegment) (v : Option Text) : Buffer :=
  { b with
    config := { b.config with version := v }
    segments := forms.map (StampedSegment.segment v) }

variable {b : Buffer} {st : Store} {forms : List StampedSegment}

theorem stamped_segmentRows (v : Option Text) (s : Segment) :
    (b.stamped forms v).segmentRows st s = b.segmentRows st s := by
  cases s <;> rfl

theorem stamped_flush (v : Option Text) (pending : Option (Nat × Text)) :
    (b.stamped forms v).flush st pending = b.flush st pending := by
  obtain _ | ⟨n, _ | ⟨c, t⟩⟩ := pending <;> rfl

theorem stamps_other {g : Option Text → Segment} (other : ∀ v n t, g v ≠ .literal n t)
    (here : Stamps fun v => (b.stamped forms v).segmentRows st (g v)) {later : Option Text → List Segment}
    (rest : Stamps fun v => (b.stamped forms v).rowsAfter st none (later v)) (pending : Option (Nat × Text)) :
    Stamps fun v => (b.stamped forms v).rowsAfter st pending (g v :: later v) := by
  refine (((Stamps.const (b.flush st pending)).append here).append rest).congr fun v => ?_
  rw [rowsAfter_other pending (other v), stamped_flush]
  simp only [bind_assoc, pure_bind]

theorem stamps_rowsAfter (later : List StampedSegment) (pending : Option (Nat × Text)) :
    Stamps fun v => (b.stamped forms v).rowsAfter st pending (later.map (StampedSegment.segment v)) := by
  induction later generalizing pending with
  | nil =>
    refine (Stamps.const (b.flush st pending)).congr fun v => ?_
    rw [List.map_nil, rowsAfter, stamped_flush]
  | cons form later ih =>
    cases form with
    | library n =>
      obtain ⟨indent?, rows⟩ := segmentRows_raw b st n
      refine stamps_other (fun v m t same => by cases same) ((Stamps.library indent?).congr fun v => ?_) (ih none)
        pending
      rw [stamped_segmentRows, StampedSegment.segment, rows]
    | fixed s =>
      rcases s.literal_or with ⟨n, t, rfl⟩ | other
      · cases pending with
        | none =>
          refine (ih (some (n, t))).congr fun v => ?_
          rw [List.map_cons, StampedSegment.segment, rowsAfter]
        | some held =>
          obtain ⟨m, u⟩ := held
          by_cases same : m = n
          · refine (ih (some (n, u ++ t))).congr fun v => ?_
            rw [List.map_cons, StampedSegment.segment, rowsAfter, if_pos same]
          · refine ((Stamps.const (b.flush st (some (m, u)))).append (ih (some (n, t)))).congr fun v => ?_
            rw [List.map_cons, StampedSegment.segment, rowsAfter, if_neg same, stamped_flush]
      · refine stamps_other (fun _ => other) ((Stamps.const (b.segmentRows st s)).congr fun v => ?_) (ih none) pending
        exact stamped_segmentRows v s

theorem operate_stamped (b : Buffer) (forms : List StampedSegment) (st : Store) (o : Operation) :
    ∃ b' forms', ∀ v, ((b.stamped forms v).operate st o).1 = stamped b' forms' v := by
  -- one segment more, at the depth that the buffer is at
  have one : ∀ s : Segment, ∃ b' forms', ∀ v, (b.stamped forms v).append s = stamped b' forms' v :=
    fun s => ⟨b, forms ++ [.fixed s], fun v => by simp [append, stamped, StampedSegment.segment]⟩
  cases o with
  | raw t => exact one (.raw b.depth t)
  | joinRaw code => exact one (.joinRaw b.depth code)
  | literal t => exact one (.literal b.depth t)
  | data => exact one (.data b.depth)
  | expression d => exact one (.expression b.depth d)
  | start =>
    let c := b.config
    refine ⟨b.indent, forms ++ [.fixed (.raw b.depth (wording "def " ++ c.functionName ++ wording "(" ++ c.dataName ++
      wording "):")), .library (b.depth + 1), .fixed (.raw (b.depth + 1) (c.accumulator ++ wording " = \"\""))], ?_⟩
    intro v
    simp [operate, appendStart, appendRaw, append, indent, stamped, StampedSegment.segment, c]
  | indent => exact ⟨b.indent, forms, fun _ => rfl⟩
  | source => exact ⟨b, forms, fun _ => rfl⟩
  | dedent =>
    by_cases outside : b.depth = 0
    · exact ⟨b, forms, fun v => by simp [operate, dedent, stamped, outside]⟩
    · exact ⟨{ b with depth := b.depth - 1 }, forms, fun v => by simp [operate, dedent, stamped, outside]⟩
  | finish =>
    let last : StampedSegment := .fixed (.raw b.depth (wording "return " ++ b.config.accumulator))
    by_cases outside : b.depth = 0
    · refine ⟨b, forms ++ [last], fun v => ?_⟩
      simp [operate, appendEnd, dedent, appendRaw, append, stamped, StampedSegment.segment, outside, last]
    · refine ⟨{ b with depth := b.depth - 1 }, forms ++ [last], fun v => ?_⟩
      simp [operate, appendEnd, dedent, appendRaw, append, stamped, StampedSegment.segment, outside, last]

theorem operateAll_stamped (b : Buffer) (forms : List StampedSegment) (st : Store) (os : List Operation) :
    ∃ b' forms', ∀ v, ((b.stamped forms v).operateAll st os).1 = stamped b' forms' v := by
  induction os generalizing b forms with
  | nil => exact ⟨b, forms, fun _ => rfl⟩
  | cons o os ih =>
    obtain ⟨next, between, here⟩ := operate_stamped b forms st o
    obtain ⟨last, behind, later⟩ := ih next between
    refine ⟨last, behind, fun v => ?_⟩
    rw [operateAll]
    dsimp only
    rw [here, later]

/-- Whatever is done to a new buffer, its rows are the same for every version but for those of the version. -/
theorem stamps_rows (st : Store) (c : Config) (os : List Operation) :
    Stamps fun v => ((ofConfig { c with version := v }).operateAll st os).1.rows st := by
  obtain ⟨b, forms, performed⟩ := operateAll_stamped (ofConfig c) [] st os
  refine (@stamps_rowsAfter b st forms forms none).congr fun v => ?_
  have new : ofConfig { c with version := v } = (ofConfig c).stamped [] v := rfl
  rw [new, performed]
  rfl

end Buffer

end RenderSource
