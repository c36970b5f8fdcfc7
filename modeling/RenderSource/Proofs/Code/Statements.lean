import RenderSource.Code.Statement
import RenderSource.Proofs.Code.Reading
import RenderSource.Proofs.Code.Soundness
/-!
How statements are spelled in emitted source, and reading them back: each takes up one row, behind any
blanks.
-/
namespace RenderSource

namespace Term

theorem readAll_blank {t : Term} (emitted : Emitted .whole t) :
    readAll (.scalar ' ' :: t.spelled) = .ok t := by
  have reads : ReadsWhole t := emitted.reads
  have unblanked := (emitted.fresh stops_nil.plain).unblanked
  rw [List.append_nil] at unblanked
  have read := reads (depthFor (.scalar ' ' :: t.spelled)) (.scalar ' ' :: t.spelled) [] stops_nil
    (by rw [skipBlanks_blank, unblanked, List.append_nil])
    (by simp only [depthFor, List.length_cons]; omega)
  rw [readAll, Term.read, read]
  rfl

theorem readName_blank (t : Text) : readName (.scalar ' ' :: t) = readName t := by
  unfold readName
  rw [skipBlanks_blank]

end Term

namespace Statement

open Term (Emitted Rank)

def spelled : Statement → Text
  | define n p => wording "def " ++ n ++ wording "(" ++ p ++ wording "):"
  | assign n t => n ++ wording " = " ++ t.spelled
  | augment n t => n ++ wording " += " ++ t.spelled
  | give t => wording "return " ++ t.spelled
  | library _ => []

inductive Spells : Statement → Prop
  | define {n p : Text} (named : n.IsName) (given : p.IsName) : Spells (define n p)
  | assign {n : Text} {t : Term} (named : n.IsName) (value : Emitted .whole t) : Spells (assign n t)
  | augment {n : Text} {t : Term} (named : n.IsName) (value : Emitted .whole t) : Spells (augment n t)
  | give {t : Term} (value : Emitted .whole t) : Spells (give t)

def nesting : Statement → Nat
  | define _ _ => 1
  | assign _ t | augment _ t | give t => t.nesting
  | library _ => 0

theorem spelled_define (n p : Text) : (define n p).spelled =
    wording "def" ++ .scalar ' ' :: (n ++ (.scalar '(' :: (p ++ [.scalar ')']) ++ [.scalar ':'])) := by
  simp [spelled, wording, Text.ofString]

theorem spelled_assign (n : Text) (t : Term) : (assign n t).spelled =
    n ++ .scalar ' ' :: .scalar '=' :: (.scalar ' ' :: t.spelled) := by
  simp [spelled, wording, Text.ofString]

theorem spelled_augment (n : Text) (t : Term) : (augment n t).spelled =
    n ++ .scalar ' ' :: .scalar '+' :: .scalar '=' :: (.scalar ' ' :: t.spelled) := by
  simp [spelled, wording, Text.ofString]

theorem spelled_give (t : Term) :
    (give t).spelled = wording "return" ++ .scalar ' ' :: t.spelled := by
  simp [spelled, wording, Text.ofString]

theorem spanName_word {n : Text} (named : n.isIdentifier = true) (u : Text) :
    Term.spanName (n ++ .scalar ' ' :: u) = (n, .scalar ' ' :: u) := by
  refine Term.spanName_append named ?_
  intro c head
  cases head
  decide

theorem read_define {n p : Text} (named : n.IsName) (given : p.IsName) :
    Statement.read (define n p).spelled = .ok (define n p) := by
  have split : .scalar '(' :: (p ++ [.scalar ')']) ++ [.scalar ':'] =
      .scalar '(' :: (p ++ [.scalar ')', .scalar ':']) := by simp
  have opens : Term.EndsName (.scalar '(' :: (p ++ [.scalar ')', .scalar ':'])) :=
    (Term.endsPlain_cons (by decide) (by decide) _).name
  have closes : Term.EndsName [.scalar ')', .scalar ':'] :=
    (Term.endsPlain_cons (by decide) (by decide) _).name
  rw [spelled_define, split, Statement.read, spanName_word (by decide)]
  simp only [↓reduceIte]
  rw [readDefine, Term.readName_blank, Term.readName_append named opens]
  simp only [bind, Except.bind, Term.readMark_cons (by decide : '(' ≠ ' '),
    Term.readName_append given closes]
  rfl

/-- What stands behind the name in front of a statement tells which statement it is. -/
theorem read_named {n u : Text} (named : n.IsName) : Statement.read (n ++ .scalar ' ' :: u) =
    (match Term.skipBlanks (.scalar ' ' :: u) with
      | .scalar '=' :: v => do return assign n (← Term.readAll v)
      | .scalar '+' :: .scalar '=' :: v => do return augment n (← Term.readAll v)
      | v => .error v.length) := by
  have definition : n ≠ wording "def" := named.not_reserved (by decide)
  have giving : n ≠ wording "return" := named.not_reserved (by decide)
  have free : ¬ (n.isEmpty || n.isReserved) = true := by
    rw [Text.isEmpty_of_isIdentifier named.1, named.2]
    exact Bool.false_ne_true
  rw [Statement.read, spanName_word named.1]
  exact (if_neg definition).trans ((if_neg giving).trans (if_neg free))

theorem read_assign {n : Text} {t : Term} (named : n.IsName) (value : Emitted .whole t) :
    Statement.read (assign n t).spelled = .ok (assign n t) := by
  rw [spelled_assign, read_named named, Term.skipBlanks_blank, Term.skipBlanks_cons (by decide)]
  simp only [Term.readAll_blank value]
  rfl

theorem read_augment {n : Text} {t : Term} (named : n.IsName) (value : Emitted .whole t) :
    Statement.read (augment n t).spelled = .ok (augment n t) := by
  rw [spelled_augment, read_named named, Term.skipBlanks_blank, Term.skipBlanks_cons (by decide)]
  simp only [Term.readAll_blank value]
  rfl

theorem read_give {t : Term} (value : Emitted .whole t) :
    Statement.read (give t).spelled = .ok (give t) := by
  rw [spelled_give, Statement.read, spanName_word (by decide)]
  simp only [(by decide : wording "return" ≠ wording "def"), ↓reduceIte, Term.readAll_blank value]
  rfl

theorem Spells.read {s : Statement} (spells : Spells s) : Statement.read s.spelled = .ok s := by
  cases spells with
  | define named given => exact read_define named given
  | assign named value => exact read_assign named value
  | augment named value => exact read_augment named value
  | give value => exact read_give value

theorem Spells.front {s : Statement} (spells : Spells s) :
    ∃ n u, n.isIdentifier = true ∧ s.spelled = n ++ u := by
  cases spells with
  | define named given =>
    exact ⟨wording "def", _, by decide, by
      rw [spelled, List.append_assoc, List.append_assoc, List.append_assoc]
      exact rfl⟩
  | assign named value => exact ⟨_, _, named.1, List.append_assoc _ _ _⟩
  | augment named value => exact ⟨_, _, named.1, List.append_assoc _ _ _⟩
  | give value => exact ⟨wording "return", .scalar ' ' :: _, by decide, rfl⟩

section

open Broken Lexeme

variable {depth : Nat} {n t : Text}

theorem passes_spaced (named : n.isIdentifier = true) {follows : Text → Prop} {u : Text}
    (later : Passes depth follows u) : Passes depth follows (n ++ .scalar ' ' :: u) := by
  have blank : Passes depth (fun _ => True) [.scalar ' '] :=
    passes_mark (by decide) (by decide) (by decide) (by decide)
  exact passes_append (passes_word named) (passes_append blank later fun _ _ => trivial)
    fun _ _ => breaks_cons (by decide) _

theorem passes_sign {m : Char} (member : m ∈ ['=', '+', ':']) {follows : Text → Prop} {u : Text}
    (later : Passes depth follows u) : Passes depth follows (.scalar m :: u) := by
  have sign : Passes depth (fun _ => True) [.scalar m] := by
    simp only [List.mem_cons, List.not_mem_nil, or_false] at member
    rcases member with rfl | rfl | rfl <;>
      exact passes_mark (by decide) (by decide) (by decide) (by decide)
  exact passes_append sign later fun _ _ => trivial

theorem passes_blank {follows : Text → Prop} {u : Text} (later : Passes depth follows u) :
    Passes depth follows (.scalar ' ' :: u) := by
  have blank : Passes depth (fun _ => True) [.scalar ' '] :=
    passes_mark (by decide) (by decide) (by decide) (by decide)
  exact passes_append blank later fun _ _ => trivial

theorem passes_last {t : Term} (value : Emitted .whole t) : Passes t.nesting (· = []) t.spelled :=
  Passes.narrow (passes_spelled value) fun rest none => by
    subst none
    exact Term.stops_nil

theorem Spells.passes {s : Statement} (spells : Spells s) : Passes s.nesting (· = []) s.spelled := by
  cases spells with
  | @define n p named given =>
    have parameter : Passes 0 Term.Stops p :=
      (passes_word given.1).narrow fun rest stops => (stops_breaks stops).1
    have head : Passes 1 (fun _ => True) (.scalar '(' :: (p ++ [.scalar ')'])) :=
      passes_bracketed (by decide) (by decide) (by decide) parameter
    have colon : Passes 1 (· = []) [.scalar ':'] :=
      passes_mark (by decide) (by decide) (by decide) (by decide)
    rw [spelled_define]
    refine passes_spaced (by decide) (passes_append (passes_word named.1) (passes_append head colon ?_) ?_)
    · exact fun _ _ => trivial
    · exact fun _ _ => breaks_cons (by decide) _
  | @assign n t named value =>
    rw [spelled_assign]
    exact passes_spaced named.1 (passes_sign (by simp) (passes_blank (passes_last value)))
  | @augment n t named value =>
    rw [spelled_augment]
    exact passes_spaced named.1 (passes_sign (by simp) (passes_sign (by simp)
      (passes_blank (passes_last value))))
  | @give t value =>
    rw [spelled_give]
    exact passes_spaced (by decide) (passes_last value)

end

end Statement

end RenderSource
