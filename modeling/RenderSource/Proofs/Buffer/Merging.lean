import RenderSource.Buffer.Basic
import RenderSource.Proofs.Buffer.Settings
import RenderSource.Proofs.Expression.Fitness
/-!
Statements of a buffer without raw code. Each run of literals at one depth is one statement, unless it
has no text, and every other segment is a statement of its own; each statement is one row.
-/
namespace RenderSource

inductive Joined
  | literal (t : Text)
  | code (t : Text)
  deriving DecidableEq

namespace Joined

def source : Joined → Text
  | literal t => t.quote
  | code t => t

def isEmpty : Joined → Bool
  | literal t => t.isEmpty
  | code _ => false

def fuse (n : Nat) (t : Text) : List (Nat × Joined) → List (Nat × Joined)
  | (m, literal u) :: later =>
    if m = n then (n, literal (t ++ u)) :: later else (n, literal t) :: (m, literal u) :: later
  | later => (n, literal t) :: later

def runs : List (Nat × Joined) → List (Nat × Joined)
  | [] => []
  | (n, literal t) :: later => fuse n t (runs later)
  | (n, code t) :: later => (n, code t) :: runs later

def kept (parts : List (Nat × Joined)) : List (Nat × Joined) := parts.filter fun p => !p.2.isEmpty

/-- The statements of segments: runs of literals at one depth are put together, and runs without text
are dropped. -/
def merged (parts : List (Nat × Joined)) : List (Nat × Joined) := kept (runs parts)

theorem kept_cons (p : Nat × Joined) (parts : List (Nat × Joined)) :
    kept (p :: parts) = kept [p] ++ kept parts :=
  List.filter_append [p] parts

theorem fuse_head (n : Nat) (t : Text) (later : List (Nat × Joined)) :
    ∃ u rest, fuse n t later = (n, literal u) :: rest := by
  unfold fuse
  split
  · split
    · exact ⟨_, _, rfl⟩
    · exact ⟨_, _, rfl⟩
  · exact ⟨_, _, rfl⟩

theorem fuse_fuse (n : Nat) (t u : Text) (later : List (Nat × Joined)) :
    fuse n t (fuse n u later) = fuse n (t ++ u) later := by
  match later with
  | [] => simp [fuse]
  | (m, code c) :: rest => simp [fuse]
  | (m, literal w) :: rest =>
    by_cases same : m = n
    · simp [fuse, same]
    · simp [fuse, same]

theorem fuse_other {n m : Nat} (apart : m ≠ n) (t u : Text) (later : List (Nat × Joined)) :
    fuse n t (fuse m u later) = (n, literal t) :: fuse m u later := by
  obtain ⟨w, rest, fused⟩ := fuse_head m u later
  rw [fused, fuse, if_neg apart]

def held : Option (Nat × Text) → List (Nat × Joined)
  | none => []
  | some (n, t) => [(n, literal t)]

theorem merged_held (pending : Option (Nat × Text)) : merged (held pending) = kept (held pending) := by
  cases pending <;> rfl

theorem merged_same (n : Nat) (t u : Text) (parts : List (Nat × Joined)) :
    merged (held (some (n, t)) ++ (n, literal u) :: parts) =
      merged (held (some (n, t ++ u)) ++ parts) := by
  simp only [merged, held, List.singleton_append, runs, fuse_fuse]

theorem merged_apart {n m : Nat} (apart : n ≠ m) (t u : Text) (parts : List (Nat × Joined)) :
    merged (held (some (n, t)) ++ (m, literal u) :: parts) =
      kept (held (some (n, t))) ++ merged (held (some (m, u)) ++ parts) := by
  simp only [merged, held, List.singleton_append, runs, fuse_other (Ne.symm apart)]
  exact kept_cons _ _

theorem merged_code (pending : Option (Nat × Text)) (n : Nat) (c : Text)
    (parts : List (Nat × Joined)) :
    merged (held pending ++ (n, code c) :: parts) = kept (held pending) ++ (n, code c) :: merged parts := by
  have stays : kept ((n, code c) :: runs parts) = (n, code c) :: merged parts := rfl
  match pending with
  | none => rfl
  | some (m, t) =>
    simp only [merged, held, List.singleton_append, runs, fuse]
    rw [kept_cons, stays]
    rfl

end Joined

namespace Segment

/-- A segment that joins something into the output: a literal, the data, an expression in which the forms of
steps fit into a row, or source that does. -/
def Joins : Segment → Prop
  | literal _ _ | data _ => True
  | expression _ d => ∀ g ∈ d.borrowed, g.Fit
  | joinRaw _ code => code.Fit
  | _ => False

theorem literal_or (s : Segment) : (∃ n t, s = .literal n t) ∨ ∀ n t, s ≠ .literal n t := by
  cases s with
  | literal n t => exact .inl ⟨n, t, rfl⟩
  | _ => exact .inr fun n t same => by cases same

end Segment

namespace Buffer

def part (b : Buffer) (st : Store) : Segment → Except Fault (Nat × Joined)
  | .literal n t => .ok (n, .literal t)
  | .data n => do return (n, .code (wording "stringify(" ++ (← b.writer.dataAccess) ++ wording ")"))
  | .expression n d => do return (n, .code (← b.writer.expression st d))
  | .joinRaw n code => .ok (n, .code (wording "to_text(" ++ code ++ wording ")"))
  | _ => .error .wrongType

def row (c : Config) (width : Nat) (p : Nat × Joined) : Text :=
  Text.blanks (p.1 * width) ++ joinStatement c p.2.source

/-- A buffer with a checked configuration, its own writer of expressions, and a width of blanks. -/
structure Plainly (b : Buffer) (width : Nat) : Prop where
  accepted : b.config.Accepted
  writer : b.writer = .ofName b.config.dataName
  whole : b.config.indentWidth.asInt? = some (width : Int)

variable {b : Buffer} {width : Nat} {st : Store}

theorem joinStatement_fit {c : Config} (accepted : c.Accepted) {t : Text} (fit : t.Fit) :
    (joinStatement c t).Fit :=
  Text.fit_append (Text.fit_append accepted.accumulator.fit (by decide)) fit

theorem part_data (writer : b.writer = .ofName b.config.dataName) (n : Nat) : b.part st (.data n) =
    .ok (n, .code (wording "stringify(" ++ b.config.dataName ++ wording ")")) := by
  rw [part, writer]
  rfl

theorem part_fit (plainly : b.Plainly width) {s : Segment} (joins : s.Joins)
    {p : Nat × Joined} (done : b.part st s = .ok p) :
    p.2.source.Fit ∧ ∀ t, p.2 = .code t → t.head? ≠ some (.scalar '"') := by
  have dataName := plainly.accepted.dataName.fit
  cases s with
  | literal n t =>
    cases done
    exact ⟨Text.quote_fit t, fun u same => by cases same⟩
  | data n =>
    rw [part_data plainly.writer] at done
    cases done
    refine ⟨?_, ?_⟩
    · exact Text.fit_append (Text.fit_append (by decide) dataName) (by decide)
    · rintro t same
      cases same
      simp [wording, Text.ofString]
  | expression n d =>
    obtain ⟨t, written, done⟩ := ok_of_bind done
    cases done
    rw [plainly.writer] at written
    obtain ⟨fit, call⟩ := Descriptor.textSource_fit dataName joins written
    exact ⟨fit, fun u same => by cases same; exact call⟩
  | joinRaw n code =>
    cases done
    refine ⟨Text.fit_append (Text.fit_append (by decide) joins) (by decide), ?_⟩
    rintro t same
    cases same
    simp [wording, Text.ofString]
  | raw n t => cases joins
  | foreign v => cases joins

theorem layout_row {indent t : Text} (fit : t.Fit) (visible : t.isBlank = false) :
    Layout.rows indent t = [indent ++ t] := by
  rw [Layout.rows, Text.rows_of_no_newline t fit.no_newline]
  simp [Layout.row, visible]

theorem joinStatement_visible (c : Config) (t : Text) : (joinStatement c t).isBlank = false := by
  have inside : CodePoint.scalar '=' ∈ joinStatement c t := by
    simp [joinStatement, wording, Text.ofString]
  rw [Text.isBlank, List.all_eq_false]
  exact ⟨_, inside, by decide⟩

theorem segmentRows_joins (plainly : b.Plainly width) {s : Segment} (joins : s.Joins)
    {rs : List Text} (done : b.segmentRows st s = .ok rs) :
    ∃ p, b.part st s = .ok p ∧ rs = [row b.config width p] := by
  have placed : ∀ (n : Nat) (j : Joined), j.source.Fit → (do
      let indent ← repeated (← b.config.indentUnit) (.ofInt n)
      pure (Layout.rows indent (joinStatement b.config j.source))) = Except.ok rs →
      rs = [row b.config width (n, j)] := by
    intro n j fit done
    obtain ⟨unit, blanks, done⟩ := ok_of_bind done
    obtain ⟨indent, deep, done⟩ := ok_of_bind done
    cases done
    rw [Config.indentUnit_ok plainly.whole blanks] at deep
    rw [repeated_blanks rfl deep]
    exact layout_row (joinStatement_fit plainly.accepted fit) (joinStatement_visible _ _)
  have fit : ∀ p, b.part st s = .ok p → p.2.source.Fit := fun p h => (part_fit plainly joins h).1
  cases s with
  | literal n t => exact ⟨_, rfl, placed n (.literal t) (fit _ rfl) done⟩
  | data n =>
    have found := @part_data b st plainly.writer n
    obtain ⟨stated, written, done⟩ := ok_of_bind done
    rw [statement, plainly.writer] at written
    cases written
    exact ⟨_, found, placed n (.code _) (fit _ found) done⟩
  | expression n d =>
    obtain ⟨stated, written, done⟩ := ok_of_bind done
    obtain ⟨t, source, written⟩ := ok_of_bind written
    cases written
    have found : b.part st (.expression n d) = .ok (n, .code t) := by
      rw [part, source]
      rfl
    exact ⟨_, found, placed n (.code t) (fit _ found) done⟩
  | joinRaw n code => exact ⟨_, rfl, placed n (.code _) (fit _ rfl) done⟩
  | raw n t => cases joins
  | foreign v => cases joins

theorem flush_held (plainly : b.Plainly width) {pending : Option (Nat × Text)} {rs : List Text}
    (done : b.flush st pending = .ok rs) :
    rs = (Joined.kept (Joined.held pending)).map (row b.config width) := by
  match pending with
  | none => cases done; rfl
  | some (n, []) => cases done; rfl
  | some (n, c :: t) =>
    have joins : (Segment.literal n (c :: t)).Joins := trivial
    obtain ⟨p, found, rfl⟩ := segmentRows_joins plainly joins done
    cases found
    rfl

theorem rowsAfter_other (pending : Option (Nat × Text)) {s : Segment} (other : ∀ n t, s ≠ .literal n t)
    (segments : List Segment) : b.rowsAfter st pending (s :: segments) = (do
      let before ← b.flush st pending
      let here ← b.segmentRows st s
      return before ++ here ++ (← b.rowsAfter st none segments)) := by
  rw [rowsAfter]
  exact other

theorem part_code {s : Segment} (other : ∀ n t, s ≠ .literal n t) {p : Nat × Joined}
    (done : b.part st s = .ok p) : ∃ n t, p = (n, .code t) := by
  cases s with
  | literal n t => exact absurd rfl (other n t)
  | data n | expression n d =>
    obtain ⟨t, _, done⟩ := ok_of_bind done
    cases done
    exact ⟨_, _, rfl⟩
  | joinRaw n code => cases done; exact ⟨_, _, rfl⟩
  | raw n t | foreign v => cases done

/-- Rows behind collected literals. The collected text is the front of the next run, which goes on as
long as literals at its depth follow. -/
theorem rowsAfter_merged (plainly : b.Plainly width) {segments tail : List Segment}
    (joins : ∀ s ∈ segments, s.Joins) (ends : ∀ n t, tail.head? ≠ some (.literal n t))
    {pending : Option (Nat × Text)} {rs : List Text}
    (done : b.rowsAfter st pending (segments ++ tail) = .ok rs) :
    ∃ parts later, segments.mapM (b.part st) = .ok parts ∧ b.rowsAfter st none tail = .ok later ∧
      rs = (Joined.merged (Joined.held pending ++ parts)).map (row b.config width) ++ later := by
  induction segments generalizing pending rs with
  | nil =>
    cases tail with
    | nil =>
      refine ⟨[], [], rfl, rfl, ?_⟩
      rw [List.append_nil, rowsAfter] at done
      rw [List.append_nil, List.append_nil, Joined.merged_held]
      exact flush_held plainly done
    | cons s tail =>
      have other : ∀ n t, s ≠ .literal n t := fun n t same => ends n t (congrArg some same)
      rw [List.nil_append, rowsAfter_other pending other] at done
      obtain ⟨before, flushed, done⟩ := ok_of_bind done
      obtain ⟨placed, written, done⟩ := ok_of_bind done
      obtain ⟨rest, rows, done⟩ := ok_of_bind done
      cases done
      refine ⟨[], placed ++ rest, rfl, ?_, ?_⟩
      · rw [rowsAfter_other none other, written, rows]
        rfl
      · rw [flush_held plainly flushed, List.append_nil, Joined.merged_held, List.append_assoc]
  | cons s segments ih =>
    have next := @ih fun r member => joins r (List.mem_cons_of_mem s member)
    have here := joins s (by simp)
    rw [List.cons_append] at done
    rcases s.literal_or with ⟨n, t, rfl⟩ | other
    · match pending with
      | none =>
        rw [rowsAfter] at done
        obtain ⟨parts, later, more, closed, rfl⟩ := next done
        exact ⟨_, later, mapM_cons_ok rfl more, closed, rfl⟩
      | some (m, u) =>
        rw [rowsAfter] at done
        split at done
        · rename_i same
          subst same
          obtain ⟨parts, later, more, closed, rfl⟩ := next done
          exact ⟨_, later, mapM_cons_ok rfl more, closed, by rw [Joined.merged_same]⟩
        · rename_i apart
          obtain ⟨before, flushed, done⟩ := ok_of_bind done
          obtain ⟨rest, rows, done⟩ := ok_of_bind done
          cases done
          obtain ⟨parts, later, more, closed, rfl⟩ := next rows
          refine ⟨_, later, mapM_cons_ok rfl more, closed, ?_⟩
          rw [flush_held plainly flushed, Joined.merged_apart apart, List.map_append, List.append_assoc]
    · rw [rowsAfter_other pending other] at done
      obtain ⟨before, flushed, done⟩ := ok_of_bind done
      obtain ⟨placed, written, done⟩ := ok_of_bind done
      obtain ⟨rest, rows, done⟩ := ok_of_bind done
      cases done
      obtain ⟨p, found, rfl⟩ := segmentRows_joins plainly here written
      obtain ⟨n, t, rfl⟩ := part_code other found
      obtain ⟨parts, later, more, closed, rfl⟩ := next rows
      refine ⟨_, later, mapM_cons_ok found more, closed, ?_⟩
      rw [flush_held plainly flushed, Joined.merged_code]
      simp [Joined.held]

end Buffer

end RenderSource
