import RenderSource.Proofs.Renderer.Compiled
import RenderSource.Proofs.Renderer.Hiding
/-!
Escaped output keeps to its place: whatever the data are, the angle brackets and quotes in the text of a
renderer are those of its literals, and two double quotes around each attribute that is there.
-/
namespace RenderSource

def isMark (c : CodePoint) : Bool :=
  c = .scalar '<' || c = .scalar '>' || c = .scalar '"' || c = .scalar '\''

namespace Text

def marks (t : Text) : Text := t.filter isMark

theorem marks_append (t u : Text) : (t ++ u).marks = t.marks ++ u.marks := List.filter_append ..

theorem marks_flatten (us : List Text) : marks us.flatten = (us.map marks).flatten := List.filter_flatten ..

theorem marks_escape (c : CodePoint) : marks (RenderSource.escapeMarkup c) = [] := by
  unfold RenderSource.escapeMarkup entity?
  by_cases plain : isMark c = true ∨ c = .scalar '&'
  · simp only [isMark, Bool.or_eq_true, decide_eq_true_eq] at plain
    rcases plain with (((rfl | rfl) | rfl) | rfl) | rfl <;> decide
  · simp only [isMark, Bool.or_eq_true, decide_eq_true_eq, not_or] at plain
    obtain ⟨⟨⟨⟨less, greater⟩, double⟩, single⟩, ampersand⟩ := plain
    simp [marks, isMark, less, greater, double, single, ampersand]

theorem marks_escapeMarkup (t : Text) : t.escapeMarkup.marks = [] := by
  rw [escapeMarkup, marks, List.filter_flatMap]
  exact List.flatMap_eq_nil_iff.mpr fun c _ => marks_escape c

end Text

namespace Piece

/-- Pieces whose data are escaped where they are joined. -/
inductive Guarded : Piece → Prop
  | literal (t : Text) : Guarded (.literal t)
  | output {d : Descriptor} (free : d.borrowed = []) : Guarded (.expression (.output d true))
  | quoted {name : Text} {d : Descriptor} (clean : name.marks = []) (free : d.borrowed = []) :
    Guarded (.expression (.markup name (.output d true) false))

/-- Texts that a guarded piece may become. -/
inductive Shows : Piece → Text → Prop
  | literal (t : Text) : Shows (.literal t) t
  | output {d : Descriptor} {u : Text} (clean : u.marks = []) : Shows (.expression (.output d true)) u
  | absent {name : Text} {d : Descriptor} : Shows (.expression (.markup name (.output d true) false)) []
  | quoted {name inner : Text} {d : Descriptor} (named : name.marks = []) (clean : inner.marks = []) :
    Shows (.expression (.markup name (.output d true) false))
      (wording " " ++ name ++ wording "=\"" ++ inner ++ wording "\"")

def isAttribute : Piece → Bool
  | .expression (.markup _ _ _) => true
  | _ => false

def markings : Piece → List Text
  | .literal t => [t.marks]
  | .expression (.markup _ _ _) => [[], wording "\"\""]
  | _ => [[]]

theorem Shows.marks {p : Piece} {u : Text} (shows : p.Shows u) : u.marks ∈ p.markings := by
  cases shows with
  | literal t => exact List.mem_singleton.mpr rfl
  | output clean => exact List.mem_singleton.mpr clean
  | absent => exact List.mem_cons_self
  | @quoted name inner d named clean =>
    have whole : Text.marks (wording " " ++ name ++ wording "=\"" ++ inner ++ wording "\"") = wording "\"\"" := by
      rw [Text.marks_append, Text.marks_append, Text.marks_append, Text.marks_append, named, clean]
      decide
    rw [whole]
    exact List.mem_cons_of_mem _ List.mem_cons_self

section

variable {st₀ st st' : Store} {version u : Text} {value : Value}

theorem Guarded.callFree {p : Piece} (guarded : p.Guarded) : p.CallFree := by
  cases guarded with
  | literal t => trivial
  | output free | quoted _ free => simpa [CallFree, Descriptor.borrowed] using free

theorem marks_escapeHtml {v : Value} (escaped : v.escapeHtml st = .ok u) : u.marks = [] := by
  obtain ⟨t, _, escaped⟩ := ok_of_bind escaped
  cases escaped
  exact Text.marks_escapeMarkup t

theorem markupAttribute_text (name inner : Text) : (Value.ofText name).markupAttribute st (.ofText inner) =
    .ok (.ofText (if inner.isEmpty then [] else wording " " ++ name ++ wording "=\"" ++ inner ++ wording "\"")) := by
  cases inner <;> rfl

theorem Guarded.shows {p : Piece} (guarded : p.Guarded) (made : p.text st₀ version value st = (.ok u, st')) :
    p.Shows u := by
  cases guarded with
  | literal t =>
    cases made
    exact .literal _
  | @output d free =>
    obtain ⟨v, between, _, shown⟩ := Run.ok_of_bind made
    exact .output (marks_escapeHtml (congrArg Prod.fst shown))
  | @quoted name d clean free =>
    obtain ⟨v, between, formed, shown⟩ := Run.ok_of_bind made
    rw [Descriptor.meaning, Descriptor.meaning] at formed
    obtain ⟨w, before, escaped, attributed⟩ := Run.ok_of_bind formed
    obtain ⟨x, first, _, answered⟩ := Run.ok_of_bind escaped
    obtain ⟨inner, inside, given⟩ := ok_of_bind (congrArg Prod.fst answered)
    cases given
    have whole : (Value.ofText name).markupAttribute before (.ofText inner) = .ok v := congrArg Prod.fst attributed
    have text : v.toText between = .ok u := congrArg Prod.fst shown
    rw [markupAttribute_text] at whole
    cases whole
    cases text
    by_cases empty : inner.isEmpty = true
    · rw [if_pos empty]
      exact .absent
    · rw [if_neg empty]
      exact .quoted clean (marks_escapeHtml inside)

theorem Guarded.texts {body : List Piece} (guarded : ∀ p ∈ body, p.Guarded)
    (made : Piece.texts st₀ version value body st = (.ok u, st')) :
    ∃ us : List Text, u = us.flatten ∧ List.Forall₂ Shows body us := by
  induction body generalizing st st' u with
  | nil =>
    cases made
    exact ⟨[], rfl, .nil⟩
  | cons p body ih =>
    obtain ⟨here, later⟩ := List.forall_mem_cons.mp guarded
    obtain ⟨t, between, first, made⟩ := Run.ok_of_bind made
    obtain ⟨more, after, behind, joined⟩ := Run.ok_of_bind made
    obtain ⟨us, rfl, shown⟩ := ih later behind
    cases joined
    exact ⟨t :: us, rfl, .cons (here.shows first) shown⟩

end

theorem Shows.marks_flatten {body : List Piece} {us : List Text} (shown : List.Forall₂ Shows body us) :
    List.Forall₂ (fun p m => m ∈ p.markings) body (us.map Text.marks) := by
  induction shown with
  | nil => exact .nil
  | cons here _ ih => exact .cons here.marks ih

/-- Without attributes, what guarded pieces show has the marks of their literals. -/
theorem Shows.marks_same {body : List Piece} (plain : ∀ p ∈ body, p.isAttribute = false) {us vs : List Text}
    (shown : List.Forall₂ Shows body us) (shown' : List.Forall₂ Shows body vs) :
    Text.marks us.flatten = Text.marks vs.flatten := by
  induction shown generalizing vs with
  | nil =>
    cases shown'
    rfl
  | @cons p u body us here _ ih =>
    obtain ⟨bare, later⟩ := List.forall_mem_cons.mp plain
    cases shown' with
    | @cons _ v _ vs here' later' =>
      have same : u.marks = v.marks := by
        have first := here.marks
        have second := here'.marks
        cases here with
        | literal t | output clean => exact (List.mem_singleton.mp first).trans (List.mem_singleton.mp second).symm
        | absent | quoted _ _ => cases bare
      rw [List.flatten_cons, List.flatten_cons, Text.marks_append, Text.marks_append, same, ih later later']

end Piece

namespace Renderer

open Descriptor (escapedData)

def Gives (r : Renderer) (value v : Value) : Prop := ∃ st st', r.render value st = (.ok v, st')

variable {c : Config} {body : List Piece} {filename : Text} {r : Renderer} {st₀ st₁ : Store}

theorem Gives.shows (clear : c.Clear) (guarded : ∀ p ∈ body, p.Guarded)
    (loaded : ofBuffer (Buffer.ofBody c body) filename st₀ = (.ok r, st₁)) {value v : Value}
    (gives : r.Gives value v) : ∃ us : List Text, v = .ofText us.flatten ∧ List.Forall₂ Piece.Shows body us := by
  obtain ⟨st, st', rendered⟩ := gives
  obtain ⟨g, texts⟩ := ofBody_render clear (fun p member => (guarded p member).callFree) loaded value st
  rw [rendered] at texts
  obtain ⟨t, made, rfl⟩ := ok_of_map (congrArg Prod.fst texts).symm
  obtain ⟨us, rfl, shown⟩ := Piece.Guarded.texts guarded (Prod.ext made rfl)
  exact ⟨us, rfl, shown⟩

/-- Data bring no marks into escaped output: with names clear of those of the library, the marks of what a
renderer gives are those of its literals, and for each attribute none or two double quotes around a text without
any. So without attributes they are the same for all data. -/
theorem ofBody_marks (clear : c.Clear) (guarded : ∀ p ∈ body, p.Guarded)
    (loaded : ofBuffer (Buffer.ofBody c body) filename st₀ = (.ok r, st₁)) :
    (∀ value v, r.Gives value v → ∃ us : List Text, v = .ofText us.flatten ∧ List.Forall₂ Piece.Shows body us ∧
        Text.marks us.flatten = (us.map Text.marks).flatten ∧
        List.Forall₂ (fun p m => m ∈ p.markings) body (us.map Text.marks)) ∧
      ((∀ p ∈ body, p.isAttribute = false) → ∀ value value' t t', r.Gives value (.ofText t) →
        r.Gives value' (.ofText t') → t.marks = t'.marks) := by
  constructor
  · intro value v gives
    obtain ⟨us, rfl, shown⟩ := gives.shows clear guarded loaded
    exact ⟨us, rfl, shown, Text.marks_flatten us, Piece.Shows.marks_flatten shown⟩
  · intro plain value value' t t' gives gives'
    obtain ⟨us, same, shown⟩ := gives.shows clear guarded loaded
    obtain ⟨vs, same', shown'⟩ := gives'.shows clear guarded loaded
    cases same
    cases same'
    exact Piece.Shows.marks_same plain shown shown'

theorem Gives.of_render {value v : Value} {st : Store} (rendered : (r.render value st).1 = .ok v) :
    r.Gives value v := ⟨st, _, Prod.ext rendered rfl⟩

section

variable (c : Config)

def bareStatements : List Statement :=
  [ .assign c.accumulator (.text []),
    .augment c.accumulator (.call (.name (wording "escape_html")) [.name (wording "data")] []),
    .give (.name c.accumulator) ]

variable {c}

theorem bare_guarded : ∀ p ∈ [Piece.expression escapedData], p.Guarded :=
  List.forall_mem_singleton.mpr (.output (by rw [Descriptor.borrowed, Descriptor.borrowedOfAll]))

theorem bare_loads (accepted : c.Accepted) (names : Placed.NamesFree c)
    (normal : c.functionName.normalName = c.functionName) (data : c.dataName = wording "data")
    (four : c.indentWidth = .ofInt 4) :
    ofBuffer (Buffer.ofBody c [.expression escapedData]) standardFilename Store.empty =
      (.ok (ofStatements c 4 (bareStatements c) 0), ⟨#[], #[Program.loadedFrame c c.functionName]⟩) := by
  have source := Descriptor.escapedData_source Store.empty
  have tree : escapedData.textTree Store.empty c.dataName =
      .call (.name (wording "escape_html")) [.name (wording "data")] [] := by
    rw [data]
    exact Descriptor.escapedData_tree Store.empty
  have callFree := fun p member => (bare_guarded p member).callFree
  have written : (Piece.expression escapedData).HasSource Store.empty c.dataName := by
    rw [data]
    exact ⟨_, congrArg (· >>= _) source⟩
  have few : ((Piece.expression escapedData).term Store.empty c.dataName).nesting ≤ Statement.sureNesting := by
    rw [Piece.term, tree]
    decide
  have room := written.fits accepted (callFree _ List.mem_cons_self).callsNames few (by decide : 1 < Placed.blockLimit)
  have merged : Piece.merged [.expression escapedData] = [.expression escapedData] := rfl
  have statements : c.statements Store.empty (Piece.merged [.expression escapedData]) = bareStatements c := by
    rw [merged, Config.statements, List.map_singleton, Piece.term, tree]
    rfl
  have loaded := ofBody_loads_written accepted names normal (by decide : standardFilename.any isNull = false)
    (by rw [four]; rfl : c.indentWidth.asInt? = some ((4 : Nat) : Int)) (by decide)
    callFree (List.forall_mem_singleton.mpr room) (List.forall_mem_singleton.mpr written)
  rwa [statements] at loaded

end

theorem ofBody_marks_bare :
    ∃ r st₁, ofBuffer (Buffer.ofBody Config.standard [.expression escapedData]) standardFilename Store.empty =
        (.ok r, st₁) ∧ r.Gives (.ofText (wording "<")) (.ofText (wording "&lt;")) ∧
      ∀ value t, r.Gives value (.ofText t) → t.marks = (wording "&lt;").marks := by
  have checked := Config.checked_standard
  have clear := Config.clear_standard checked
  have loaded := bare_loads clear.toAccepted (Config.namesFree_standard checked) (Config.normal_standard checked) rfl
    rfl
  let st₁ : Store := ⟨#[], #[Program.loadedFrame .standard (wording "render")]⟩
  obtain ⟨g, rendered⟩ := ofBody_render clear (fun p member => (bare_guarded p member).callFree) loaded
    (.ofText (wording "<")) st₁
  have texts : Piece.texts Store.empty Config.standard.libraryVersion (.ofText (wording "<"))
      [.expression escapedData] st₁ = (.ok (wording "&lt;"), st₁) := by
    rw [Piece.texts, Piece.text, Run.bind_ok (Descriptor.escapedData_text _ _ _)]
    rfl
  have gives : Gives _ (.ofText (wording "<")) (.ofText (wording "&lt;")) :=
    Gives.of_render (congrArg Prod.fst (rendered.trans (by rw [texts])))
  have marks := (ofBody_marks clear bare_guarded loaded).2 (List.forall_mem_singleton.mpr rfl)
  exact ⟨_, _, loaded, gives, fun value t given => marks value _ t _ given gives⟩

/-- A configuration that is accepted although the normal form of its output variable is a name of the library. -/
def shadowing : Config :=
  { Config.standard with accumulator := wording "_HTML_ESCAPE" ++ [.scalar (Char.ofNat 0xFF33)] }

theorem shadowing_empties : shadowing.Empties "_HTML_ESCAPES" where
  same := Config.wideTable_normal
  bound := by decide
  apart := by decide
  data := (Config.clear_standard Config.checked_standard).dataName'

theorem shadowing_render : ((ofStatements shadowing 4 (bareStatements shadowing) 0).render (.ofText (wording "<"))
    ⟨#[], #[Program.loadedFrame shadowing shadowing.functionName]⟩).1 = .ok (.ofText (wording "<")) :=
  render_unescaped shadowing_empties (loaded_free (Config.clear_standard Config.checked_standard).functionName' _) _

/-- With an output variable that hides what the library escapes by, data bring marks into escaped output. -/
theorem ofBody_marks_shadowed :
    Config.check Store.empty { accumulator := .ofText shadowing.accumulator } = .ok shadowing ∧
      (∀ p ∈ [Piece.expression escapedData], p.Guarded) ∧
      ∃ r st₁, ofBuffer (Buffer.ofBody shadowing [.expression escapedData]) standardFilename Store.empty = (.ok r, st₁) ∧
        r.Gives (.ofText (wording "<")) (.ofText (wording "<")) ∧ (wording "<").marks ≠ [] := by
  have checked : Config.check Store.empty { accumulator := .ofText shadowing.accumulator } = .ok shadowing := by
    decide +kernel
  have standard := Config.checked_standard
  have free := Config.namesFree_standard standard
  have names := shadowing_empties.namesFree (by decide) free.functionName free.dataName
  have normal := Config.normal_standard standard
  have loaded := bare_loads (Config.check_accepted checked) names normal rfl rfl
  exact ⟨checked, bare_guarded, _, _, loaded, Gives.of_render shadowing_render, by decide⟩

end Renderer

end RenderSource
