import RenderSource.Proofs.Renderer.Located
import RenderSource.Proofs.Renderer.Failures
import RenderSource.Proofs.Text.ShownLines
/-!
What is shown of a source that is not loaded. The line that a failure is at is a row of the source, and the snippet
shows it with its number, as it does the rows around it; a mark that ends a line within a row, which quoting lets
stand in a text, shifts all lines behind it.
-/
namespace RenderSource

def Text.HasRow (source : Text) (n : Int) (t : Text) : Prop := ∃ k : Nat, n = k + 1 ∧ source.rows[k]? = some t

namespace Buffer

variable {b : Buffer} {st : Store} {rs : List Text}

theorem segmentRows_unit {s : Segment} (done : b.segmentRows st s = .ok rs) : ∃ t, b.config.indentUnit = .ok t := by
  obtain ⟨_, _, done⟩ := ok_of_bind done
  obtain ⟨unit, blanks, _⟩ := ok_of_bind done
  exact ⟨unit, blanks⟩

theorem alone_unit {g : Segment} (done : (b.alone g).rows st = .ok rs) : rs = [] ∨ ∃ t, b.config.indentUnit = .ok t := by
  rcases g.literal_or with ⟨n, t, rfl⟩ | other
  · rw [alone_literal] at done
    cases t with
    | nil =>
      cases done
      exact .inl rfl
    | cons c t => exact .inr (segmentRows_unit done)
  · rw [alone_other other] at done
    exact .inr (segmentRows_unit done)

theorem groupRows_unit {gs : List Segment} (done : b.groupRows st gs = .ok rs) :
    rs = [] ∨ ∃ t, b.config.indentUnit = .ok t := by
  induction gs generalizing rs with
  | nil =>
    cases done
    exact .inl rfl
  | cons g gs ih =>
    rw [groupRows_cons] at done
    obtain ⟨here, first, done⟩ := ok_of_bind done
    obtain ⟨behind, later, done⟩ := ok_of_bind done
    cases done
    rcases alone_unit first with rfl | unit
    · exact ih later
    · exact .inr unit

theorem source_unit {source : Text} (given : b.source st = .ok source) :
    source = [] ∨ ∃ t, b.config.indentUnit = .ok t := by
  obtain ⟨rs, laid, same⟩ := ok_of_bind given
  cases same
  rw [rows_groups] at laid
  rcases groupRows_unit laid with rfl | unit
  · exact .inl rfl
  · exact .inr unit

end Buffer

namespace Renderer

variable {source filename : Text} {f : LoadFailure}

/-- A source of fit rows is refused for a fault in it, or for the place of one of its statements. -/
theorem statements_refused (fit : ∀ c ∈ source, c = newline ∨ c.isUnfit = false)
    (refused : statements source filename = .error (.load f)) : ∃ g, f = failure source filename g ∧
      (Placed.read source = .error g ∧ g.problem ≠ .noRoom ∨ ∃ ps, Placed.read source = .ok ps ∧ Placed.misplaced? ps = some g) := by
  obtain ⟨surrogates, nulls⟩ := fit_source fit
  cases named : filename.any isNull with
  | true =>
    rw [statements, named] at refused
    cases refused
  | false =>
    rw [statements, named, surrogates, nulls] at refused
    cases read : Placed.read source with
    | error g =>
      rw [read] at refused
      have same : sourceFault source filename g = .load f := Except.error.inj refused
      by_cases room : g.problem = .noRoom
      · rw [sourceFault, if_pos room] at same
        cases same
      · rw [sourceFault_load room] at same
        cases same
        exact ⟨g, rfl, .inl ⟨rfl, room⟩⟩
    | ok ps =>
      rw [read] at refused
      dsimp only at refused
      cases misplaced : Placed.misplaced? ps with
      | some g =>
        rw [misplaced] at refused
        cases refused
        exact ⟨g, rfl, .inr ⟨ps, rfl, misplaced⟩⟩
      | none =>
        rw [misplaced] at refused
        cases refused

theorem statements_empty (filename : Text) : statements [] filename = if filename.any isNull then .error .badValue else .ok [] := by
  rw [statements]
  cases filename.any isNull <;> rfl

section

variable {c : Config} {b : Buffer} {steps : List Step} {st st₀ : Store} {input : ConfigInput} {n : Int}

theorem ofBuffer_lies (accepted : c.Accepted) (performed : (Buffer.ofConfig c).performAll steps = .ok b)
    (calls : ∀ p, .piece p ∈ steps → p.CallsNames) (given : b.source st = .ok source)
    (failed : (ofBuffer b filename st).1 = .error (.load f)) (numbered : f.line = some n) :
    ∃ rs g, source = Text.ofRows rs ∧ (∀ r ∈ rs, r.Fit) ∧ f = failure source filename g ∧ g.LiesIn 1 rs := by
  have config : b.config = c := (Buffer.performAll_ok performed).2.1
  rw [ofBuffer_source given, config] at failed
  rcases Buffer.source_unit given with rfl | ⟨unit, blanks⟩
  · -- a source without rows is accepted, and all that can be reported of it is that the function is missing
    have empty := statements_empty filename
    split at empty
    · rw [load_refused empty] at failed
      cases failed
    · rw [load_silent empty failed] at numbered
      cases numbered
  · rw [config] at blanks
    obtain ⟨width, positive, whole⟩ := Config.width_of_unit accepted blanks
    obtain ⟨ps, keeps, rfl, _, sources, inside⟩ := Buffer.performed_portions accepted whole performed calls given
    have stated := stated_kept keeps calls sources inside
    have fit := @Portion.flatMap_fit c st width ps accepted stated
    obtain ⟨count, enough, read⟩ := Placed.read_fit fit
    cases accept : statements (Text.ofRows (ps.flatMap (Portion.rows c st width))) filename with
    | error e =>
      rw [load_refused accept] at failed
      cases failed
      obtain ⟨g, same, refused⟩ := statements_refused (Text.ofRows_fit fit) accept
      rw [read] at refused
      refine ⟨_, g, rfl, fit, same, ?_⟩
      rcases refused with ⟨broken, room⟩ | ⟨qs, done, misplaced⟩
      · exact Portion.unread_lies accepted positive stated enough broken room
      · rw [Portion.read_placed accepted positive stated enough done] at misplaced
        exact Portion.misplaced_lies accepted stated misplaced
    | ok qs =>
      rw [load_silent accept failed] at numbered
      cases numbered

/-- The snippet of a failure with a line shows that line as the row of the source that it is, and around it other rows
with their numbers, if no row as far as it goes has a mark in it that ends a line. Its column is in the blanks in
front of the row, or at their end where a name is at fault; that of a bracket is behind them. -/
theorem ofBuffer_shows (checked : Config.check st₀ input = .ok c)
    (performed : (Buffer.ofConfig c).performAll steps = .ok b) (calls : ∀ p, .piece p ∈ steps → p.CallsNames)
    (given : b.source st = .ok source) (failed : (ofBuffer b filename st).1 = .error (.load f)) (numbered : f.line = some n)
    (unmarked : ∀ r ∈ source.rows.take (n.toNat + 2), ∀ ch ∈ r, ch.val ∉ Text.marksInRows) :
    ∃ s t column, f.snippet = some s ∧ source.HasRow n t ∧ (n, t) ∈ s.lines ∧ (∀ l ∈ s.lines, source.HasRow l.1 l.2) ∧
      s.column = some column ∧ 0 ≤ column ∧ (f.problem ≠ .deepBrackets → column ≤ t.margin) ∧
      (f.problem ≠ .deepBrackets → f.problem ≠ .fixedName → column < t.margin) := by
  obtain ⟨rs, g, rfl, fit, rfl, t, ⟨k, number, row⟩, marks⟩ :=
    ofBuffer_lies (Config.check_accepted checked) performed calls given failed numbered
  cases numbered
  have some_row : rs ≠ [] := by
    rintro rfl
    cases row
  have rows : (Text.ofRows rs).rows = rs := Text.rows_ofRows rs some_row fun r member => (fit r member).no_newline
  have whole : ∀ r ∈ rs.take (g.row + 2), r.Unbroken := by
    intro r member
    rw [rows] at unmarked
    exact (fit r (List.mem_of_mem_take member)).unbroken (unmarked r member)
  have has : ∀ {m : Int} {u : Text} {i : Nat}, m = i + 1 → rs[i]? = some u → (Text.ofRows rs).HasRow m u :=
    fun number inside => ⟨_, number, by rw [rows, inside]⟩
  refine ⟨_, t, g.column, rfl, has (by omega) row, ?_, ?_, rfl, marks.column, marks.within, marks.inside⟩
  · exact Snippet.mem_of_row whole (by omega) marks.filled row
  · intro l shown
    obtain ⟨i, number, inside⟩ := Snippet.row_of_mem whole shown
    exact has number inside

end

section

variable {t : Text}

/-- A literal, and another one in a block that nothing has opened. -/
def stepped (t : Text) : List Step := [.piece (.literal t), .indent, .piece (.literal (wording "x"))]

def steppedBuffer (t : Text) : Buffer :=
  ⟨.standard, .ofName (wording "data"), [.literal 0 t, .literal 1 (wording "x")], 1⟩

def steppedSource (t : Text) : Text := Text.ofRows [wording "html += " ++ t.quote, wording "    html += \"x\""]

theorem piece_stepped {p : Piece} (member : .piece p ∈ stepped t) : ∃ u, p = .literal u := by
  simp only [stepped, List.mem_cons, List.not_mem_nil, or_false, reduceCtorEq, false_or, Step.piece.injEq] at member
  rcases member with rfl | rfl <;> exact ⟨_, rfl⟩

theorem calls_stepped {p : Piece} (member : .piece p ∈ stepped t) : p.CallsNames := by
  obtain ⟨u, rfl⟩ := piece_stepped member
  trivial

theorem stepped_refused (given : (steppedBuffer t).source Store.empty = .ok (steppedSource t))
    (outline : (steppedBuffer t).outline Store.empty = [⟨1, 0, false⟩, ⟨2, 1, false⟩]) :
    (ofBuffer (steppedBuffer t) standardFilename Store.empty).1 =
      .error (.load (failure (steppedSource t) standardFilename ⟨.unexpectedIndent, 2, 3⟩)) := by
  have performed : (Buffer.ofConfig .standard).performAll (stepped t) = .ok (steppedBuffer t) := rfl
  have plain : ∀ p, .piece p ∈ stepped t → p.Plain Store.empty := by
    intro p member
    obtain ⟨u, rfl⟩ := piece_stepped member
    exact ⟨trivial, trivial, Nat.zero_le _⟩
  have loaded := ofBuffer_outline performed (fun p member => calls_stepped member) (Step.hasRoom_of_plain plain) given
  rw [outline] at loaded
  cases result : (ofBuffer (steppedBuffer t) standardFilename Store.empty).1 with
  | ok r =>
    rw [result] at loaded
    cases loaded
  | error e =>
    rw [result] at loaded
    exact congrArg Except.error (Except.error.inj loaded)

theorem ofBuffer_shows_stepped : ∃ b source f, (Buffer.ofConfig .standard).performAll (stepped (wording "a")) = .ok b ∧
    b.source Store.empty = .ok source ∧ (ofBuffer b standardFilename Store.empty).1 = .error (.load f) ∧ f.line = some 2 ∧
    ∃ s t column, f.snippet = some s ∧ source.HasRow 2 t ∧ (2, t) ∈ s.lines ∧ (∀ l ∈ s.lines, source.HasRow l.1 l.2) ∧
      s.column = some column ∧ 0 ≤ column ∧ (f.problem ≠ .deepBrackets → column ≤ t.margin) ∧
      (f.problem ≠ .deepBrackets → f.problem ≠ .fixedName → column < t.margin) := by
  have performed : (Buffer.ofConfig .standard).performAll (stepped (wording "a")) = .ok (steppedBuffer (wording "a")) := rfl
  have given : (steppedBuffer (wording "a")).source Store.empty = .ok (steppedSource (wording "a")) := rfl
  have refused := stepped_refused given rfl
  have unmarked : ∀ r ∈ (steppedSource (wording "a")).rows.take 4, ∀ ch ∈ r, ch.val ∉ Text.marksInRows := by decide
  exact ⟨_, _, _, performed, given, refused, rfl, ofBuffer_shows Config.checked_standard performed (fun p member => calls_stepped member) given refused rfl unmarked⟩

/-- Behind a line separator in a text the lines of a snippet are not the rows of their numbers. -/
theorem ofBuffer_shows_separator : ∃ b source f s t,
    (Buffer.ofConfig .standard).performAll (stepped [.scalar '\u2028']) = .ok b ∧ b.source Store.empty = .ok source ∧
      (ofBuffer b standardFilename Store.empty).1 = .error (.load f) ∧ f.line = some 2 ∧ f.snippet = some s ∧
        source.HasRow 2 t ∧ (2, t) ∉ s.lines ∧ (2, wording "\"") ∈ s.lines := by
  have given : (steppedBuffer [.scalar '\u2028']).source Store.empty = .ok (steppedSource [.scalar '\u2028']) := rfl
  exact ⟨_, _, _, _, wording "    html += \"x\"", rfl, given, stepped_refused given rfl, rfl, rfl, ⟨1, rfl, rfl⟩, by decide,
    by decide⟩

end

end Renderer

end RenderSource
