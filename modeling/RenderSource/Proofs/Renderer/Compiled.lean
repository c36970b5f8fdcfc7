import RenderSource.Proofs.Renderer.Loading
import RenderSource.Proofs.Renderer.Written
/-!
Compilation is correct: with the standard names, the source that a buffer gives for a body loads, unless too many
brackets are open in it at once, and the renderer gives the texts of the pieces in the order they were appended.
-/
namespace RenderSource

namespace Config

variable {c : Config} {width version : Value} {st : Store}

theorem check_standard (checked : check st { indentWidth := width, version := version } = .ok c) :
    c.functionName = wording "render" ∧ c.dataName = wording "data" ∧ c.accumulator = wording "html" := by
  obtain ⟨function, data, accumulator⟩ := check_names checked
  exact ⟨(Option.some.inj function).symm, (Option.some.inj data).symm, (Option.some.inj accumulator).symm⟩

theorem clear_standard (checked : check st { indentWidth := width, version := version } = .ok c) : c.Clear := by
  obtain ⟨function, data, accumulator⟩ := check_standard checked
  refine ⟨check_accepted checked, ?_, ?_, ?_, ?_⟩
  · rw [function]
    decide
  · rw [data]
    exact ⟨by decide, by decide⟩
  · rw [accumulator]
    exact ⟨by decide, by decide⟩
  · rw [data, accumulator]
    decide

theorem namesFree_standard (checked : check st { indentWidth := width, version := version } = .ok c) :
    Placed.NamesFree c := by
  obtain ⟨function, data, accumulator⟩ := check_standard checked
  constructor
  · rw [function]
    decide
  · rw [data]
    decide
  · rw [accumulator]
    decide

theorem normal_standard (checked : check st { indentWidth := width, version := version } = .ok c) :
    c.functionName.normalName = c.functionName := by
  rw [(check_standard checked).1]
  decide

end Config

namespace Descriptor

def escapedData : Descriptor := .output (.accessor []) true

theorem escapedData_free : escapedData.borrowed = [] := by
  rw [escapedData, borrowed, borrowed, borrowedOfAll]

variable (st : Store)

theorem escapedData_source : escapedData.source st (wording "data") = .ok (wording "escape_html(data)") := by
  rw [escapedData, source, source]
  rfl

theorem escapedData_text (t : Text) (st' : Store) :
    escapedData.text st (.ofText t) st' = (.ok t.escapeMarkup, st') := by
  rw [escapedData, text, meaning]
  rfl

theorem escapedData_tree : escapedData.tree st (wording "data") =
    .call (.name (wording "escape_html")) [.name (wording "data")] [] := by
  rw [escapedData, tree, tree]
  rfl

end Descriptor

namespace Renderer

open Descriptor (escapedData)

theorem ofBody_loads_written {c : Config} {width : Nat} {body : List Piece} {filename : Text} {st₀ : Store}
    (accepted : c.Accepted) (names : Placed.NamesFree c) (normal : c.functionName.normalName = c.functionName)
    (named : filename.any isNull = false) (whole : c.indentWidth.asInt? = some (width : Int))
    (small : width < memoryLimit) (free : ∀ p ∈ body, p.CallFree)
    (room : ∀ p ∈ body, (Statement.augment c.accumulator (p.term st₀ c.dataName)).Fits 1)
    (sources : ∀ p ∈ body, p.HasSource st₀ c.dataName) :
    ofBuffer (Buffer.ofBody c body) filename st₀ =
      (.ok (ofStatements c width (c.statements st₀ (Piece.merged body)) st₀.frames.size),
        st₀.withFrames (st₀.frames.push (Program.loadedFrame c c.functionName))) := by
  obtain ⟨source, given⟩ := Buffer.source_written whole small sources
  obtain ⟨same, count, loaded⟩ := ofBody_loads accepted names normal named free room given
  rw [whole] at count
  cases Int.ofNat.inj (Option.some.inj count)
  exact loaded

/-- A body whose source is given loads, and then gives the texts of its pieces for every data, wherever it is
rendered; the first piece that fails decides how it fails. -/
theorem ofBody_compiles {c : Config} {width version : Value} {st st₀ : Store}
    (checked : Config.check st { indentWidth := width, version := version } = .ok c) {body : List Piece}
    (free : ∀ p ∈ body, p.CallFree)
    (room : ∀ p ∈ body, (Statement.augment c.accumulator (p.term st₀ c.dataName)).Fits 1) {source : Text}
    (given : (Buffer.ofBody c body).source st₀ = .ok source) :
    ∃ r f, ofBuffer (Buffer.ofBody c body) standardFilename st₀ = (.ok r, st₀.withFrames (st₀.frames.push f)) ∧
      ∀ value st, ∃ g, r.render value st = ((Piece.texts st₀ c.libraryVersion value body st).1.map .ofText,
        (Piece.texts st₀ c.libraryVersion value body st).2.withFrames (st.frames.push g)) := by
  have clear := Config.clear_standard checked
  obtain ⟨width, _, loaded⟩ := ofBody_loads clear.toAccepted (Config.namesFree_standard checked)
    (Config.normal_standard checked) (by decide : standardFilename.any isNull = false) free room given
  exact ⟨_, _, loaded, ofBody_render clear free loaded⟩

def greeting : List Piece :=
  [ .literal (wording "<p>"), .expression escapedData, .literal (wording "</p>"), .data, .version ]

def narrow : Config := { Config.standard with indentWidth := .ofInt 2, version := some (wording "7") }

theorem ofBody_compiles_greeting :
    ∃ r st₁, ofBuffer (Buffer.ofBody narrow greeting) standardFilename Store.empty = (.ok r, st₁) ∧
      (r.render (.ofText (wording "<Eve>")) st₁).1 =
        .ok (.ofText (wording "<p>&lt;Eve&gt;</p>\"<Eve>\"7")) := by
  have checked : Config.check Store.empty { indentWidth := .ofInt 2, version := .ofText (wording "7") } =
      .ok narrow := by decide
  have each : ∀ {P : Piece → Prop}, P (.literal (wording "<p>")) → P (.expression escapedData) →
      P (.literal (wording "</p>")) → P .data → P .version → ∀ p ∈ greeting, P p := by
    intro P opening named closing data version p member
    simp only [greeting, List.mem_cons, List.not_mem_nil, or_false] at member
    rcases member with rfl | rfl | rfl | rfl | rfl <;> assumption
  have text := Descriptor.escapedData_text Store.empty (wording "<Eve>") Store.empty
  have literal : LibraryFunction.boundedLiteral Store.empty (.ofText (wording "<Eve>")) =
      .ok (wording "\"<Eve>\"") := by decide
  have free : (Piece.expression escapedData).CallFree := Descriptor.escapedData_free
  obtain ⟨source, given⟩ := @Buffer.source_written 2 Store.empty narrow rfl (by decide) greeting
    (each trivial ⟨_, congrArg (· >>= _) (Descriptor.escapedData_source Store.empty)⟩ trivial trivial trivial)
  have escaped : (Statement.augment narrow.accumulator (escapedData.tree Store.empty narrow.dataName)).Fits 1 := by
    rw [show narrow.dataName = wording "data" from rfl, Descriptor.escapedData_tree]
    decide
  have room := @each (fun p => (Statement.augment narrow.accumulator (p.term Store.empty narrow.dataName)).Fits 1)
    (by decide) escaped (by decide) (by decide) (by decide)
  obtain ⟨r, f, loaded, render⟩ := ofBody_compiles checked (each trivial free trivial trivial trivial) room given
  have texts : (Piece.texts Store.empty narrow.libraryVersion (.ofText (wording "<Eve>")) greeting Store.empty).1 =
      .ok (wording "<p>&lt;Eve&gt;</p>\"<Eve>\"7") := by
    have behind : Piece.texts Store.empty narrow.libraryVersion (.ofText (wording "<Eve>"))
        [.literal (wording "</p>"), .data, .version] Store.empty =
          (.ok (wording "</p>\"<Eve>\"7"), Store.empty) := by
      have data : Piece.text Store.empty narrow.libraryVersion (.ofText (wording "<Eve>")) .data Store.empty =
          (.ok (wording "\"<Eve>\""), Store.empty) := congrArg (·, Store.empty) literal
      rw [Piece.texts_literal, Run.map_apply, Piece.texts, Run.bind_ok data]
      rfl
    rw [greeting, Piece.texts_literal, Run.map_apply, Piece.texts, Piece.text, Run.bind_ok text, Run.bind_ok behind]
    rfl
  obtain ⟨g, rendered⟩ := render (.ofText (wording "<Eve>")) (Store.empty.withFrames (Store.empty.frames.push f))
  refine ⟨r, _, loaded, ?_⟩
  rw [rendered, Piece.texts_frameless greeting, texts]
  rfl

def nested (n : Nat) : Store :=
  { cells := ((List.range n).map fun i => .list (if i + 1 < n then [.ref (i + 1)] else []) none).toArray }

def nestedConstant : Descriptor := .const (.ref 0)

/-- The source of the lists: brackets in brackets in those of a call, one more than can be open. -/
def nestedSource : Text :=
  wording "to_text(" ++ (List.replicate 200 (.scalar '[') ++ List.replicate 200 (.scalar ']')) ++ wording ")"

theorem nested_items {n k : Nat} (inside : k < n) :
    (Value.ref k).items? (nested n) = some (if k + 1 < n then [.ref (k + 1)] else []) := by
  simp [Value.items?, Value.cell?, nested, Store.get?, inside]

/-- By induction on the lists that are still to come. -/
theorem nested_literal {n m k fuel : Nat} (left : k + (m + 1) = n) (enough : m < fuel) {opened : List Address}
    (outside : ∀ a ∈ opened, a < k) : Value.literalWithin (nested n) none fuel opened (.ref k) =
      .ok (List.replicate (m + 1) (.scalar '[') ++ List.replicate (m + 1) (.scalar ']')) := by
  induction m generalizing k fuel opened with
  | zero =>
    obtain ⟨less, rfl⟩ := Nat.exists_eq_add_one.mpr enough
    have apart : k ∉ opened := fun member => Nat.lt_irrefl k (outside k member)
    rw [Value.literalWithin_items (nested_items (by omega)), if_neg apart, if_neg (by omega)]
    rfl
  | succ m ih =>
    obtain ⟨less, rfl⟩ := Nat.exists_eq_add_one.mpr (Nat.zero_lt_of_lt enough)
    have apart : k ∉ opened := fun member => Nat.lt_irrefl k (outside k member)
    have later : ∀ a ∈ k :: opened, a < k + 1 :=
      List.forall_mem_cons.mpr ⟨Nat.lt_succ_self k, fun a member => Nat.lt_succ_of_lt (outside a member)⟩
    have inner := @ih (k + 1) less (by omega) (by omega) (k :: opened) later
    have front : List.replicate (m + 1 + 1) (CodePoint.scalar '[') =
        .scalar '[' :: List.replicate (m + 1) (.scalar '[') := List.replicate_succ
    have back : List.replicate (m + 1 + 1) (CodePoint.scalar ']') =
        List.replicate (m + 1) (.scalar ']') ++ [.scalar ']'] := List.replicate_succ'
    rw [Value.literalWithin_items (nested_items (by omega)), if_neg apart, if_pos (by omega), List.mapM_cons, inner,
      front, back, List.cons_append, ← List.append_assoc]
    rfl

theorem nested_written : nestedConstant.textSource (nested 200) (wording "data") = .ok nestedSource := by
  have literal : LibraryFunction.literalOf (nested 200) (.ref 0) =
      .ok (List.replicate 200 (.scalar '[') ++ List.replicate 200 (.scalar ']')) := by
    have size : (nested 200).size = 200 := by simp [nested, Store.size]
    rw [LibraryFunction.literalOf, Value.literal, size,
      nested_literal (m := 199) rfl (by decide) (List.forall_mem_nil _)]
    rfl
  rw [nestedConstant, Descriptor.textSource, Descriptor.source, literal]
  rfl

theorem nested_free : ∀ p ∈ [Piece.expression nestedConstant], p.CallFree := by
  have taken : nestedConstant.borrowed = [] := by rw [nestedConstant, Descriptor.borrowed]
  exact List.forall_mem_singleton.mpr taken

theorem nested_broken : Broken.lookRow 291 0 (wording "    html += " ++ nestedSource) [] =
    .fault ⟨.deepBrackets, 291, 219⟩ := by decide +kernel

open Placed (readRow_broken)

theorem nested_unread (accepted : Config.standard.Accepted)
    (spelled : Placed.IsBody (Config.standard.statements (nested 200) [.expression nestedConstant])) :
    ∃ f, Placed.read (Text.ofRows (Buffer.renderRows Config.standard 4
      (Config.standard.statements (nested 200) [.expression nestedConstant]))) = .error f := by
  let tree := nestedConstant.textTree (nested 200) (wording "data")
  have free : (Piece.expression nestedConstant).CallFree := nested_free _ List.mem_cons_self
  have written : tree.spelled = nestedSource :=
    (Descriptor.textSource_tree nested_written accepted.dataName free.calls).1.symm
  let first : Statement := .assign (wording "html") (.text [])
  let second : Statement := .augment (wording "html") tree
  have firstSpells : first.Spells := (spelled first List.mem_cons_self).1
  have secondSpells : second.Spells := (spelled second (List.mem_cons_of_mem _ List.mem_cons_self)).1
  have looked : Broken.lookRow 291 0 (Text.blanks 4 ++ second.spelled) [] = .fault ⟨.deepBrackets, 291, 219⟩ := by
    have row : Text.blanks 4 ++ second.spelled = wording "    html += " ++ nestedSource :=
      congrArg (wording "    html += " ++ ·) written
    rw [row]
    exact nested_broken
  have begun : Placed.bodyRow Config.standard 4 + 1 = 291 := by decide +kernel
  obtain ⟨filled, visible⟩ := Placed.Spells.visible secondSpells
  have refused : ∀ count, ∃ f, Placed.readRow count (Placed.bodyRow Config.standard 4 + 1) 1
      (Text.blanks 4 ++ second.spelled) second.spelled
        ([Statement.give (.name (wording "html"))].map fun s => Text.blanks 4 ++ s.spelled) = .error f ∧ True := by
    intro count
    rw [begun]
    obtain ⟨f, broken⟩ := readRow_broken secondSpells looked count 1 _
    exact ⟨f, broken, trivial⟩
  obtain ⟨f, unread, _⟩ := Buffer.read_broken accepted (by decide) firstSpells (accepted.fits_init (by decide)) rfl
    (fun s member => (spelled s member).1.fit) filled visible (Placed.Spells.not_library secondSpells) refused
  exact ⟨f, unread⟩

/-- A body without calls whose source is given and does not load: more brackets are open in it at once than can
be. -/
theorem ofBody_nested_refused :
    Config.check Store.empty {} = .ok Config.standard ∧ (∀ p ∈ [Piece.expression nestedConstant], p.CallFree) ∧
      ∃ source f, (Buffer.ofBody Config.standard [.expression nestedConstant]).source (nested 200) = .ok source ∧
        ofBuffer (Buffer.ofBody Config.standard [.expression nestedConstant]) standardFilename (nested 200) =
          (.error f, nested 200) := by
  have accepted := Config.check_accepted Config.checked_standard
  obtain ⟨source, given⟩ := @Buffer.source_written 4 (nested 200) Config.standard rfl (by decide)
    [.expression nestedConstant] (List.forall_mem_singleton.mpr ⟨_, nested_written⟩)
  obtain ⟨width, whole, positive, rfl, sources⟩ := Buffer.source_ofBody accepted nested_free given
  have four : width = 4 := Int.ofNat.inj (Option.some.inj whole).symm
  subst four
  have spelled := Config.statements_body accepted sources nested_free
  obtain ⟨f, unread⟩ := nested_unread accepted spelled
  have refused := statements_broken (by decide : standardFilename.any isNull = false)
    (Buffer.ofRows_renderRows_fit accepted spelled) unread
  have loaded := load_refused refused Config.standard.functionName (nested 200)
  have given' := @ofBuffer_source standardFilename _ _ _ given
  rw [Buffer.ofBody_config] at given'
  exact ⟨Config.checked_standard, nested_free, _, _, given, given'.trans loaded⟩

end Renderer

end RenderSource
