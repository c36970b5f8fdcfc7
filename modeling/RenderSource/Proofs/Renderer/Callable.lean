import RenderSource.Proofs.Renderer.Outcome
/-!
What the writer of expressions accepts loads, as long as the renderers that are called bear no words of the
language. Whether a name is an identifier is all that is checked of it, and words of the language are.
-/
namespace RenderSource

namespace Descriptor

def panel : Descriptor :=
  .output (.call (wording "panel") [.call (wording "panel") [], .accessor [.call (wording "key") []]]) true

theorem panel_source : panel.textSource Store.empty (wording "data") =
    .ok (wording "escape_html(panel(panel(), lookup(data, key())))") := by
  have key : stepSource Store.empty (wording "data") (.call (wording "key") []) =
      source Store.empty (wording "data") (.call (wording "key") []) := stepSource_nested fun v same => by cases same
  rw [panel, textSource, source, source, sources, source, sources, sources, sources, source, stepSources, stepSources, key,
    source, sources]
  decide

def wordCall : Descriptor := .call (wording "class") []

def wordTree : Term := .call (.name (wording "to_text")) [.call (.name (wording "class")) [] []] []

theorem wordCall_source : wordCall.textSource Store.empty (wording "data") = .ok wordTree.spelled := by
  rw [wordCall, textSource, source, sources]
  decide

end Descriptor

namespace Renderer

open Descriptor (panel wordCall wordTree)

/-- A descriptor whose source is given loads between a start and an end, if all that it takes over are names that are
free for use, and if there is room for its statement. -/
theorem ofBody_callable {d : Descriptor} {st : Store} {t : Text} (written : d.textSource st (wording "data") = .ok t)
    (names : ∀ g ∈ d.borrowed, g.IsName)
    (room : (Statement.augment (wording "html") (d.textTree st (wording "data"))).Fits 1) :
    ∃ source r, (Buffer.ofBody .standard [.expression d]).source st = .ok source ∧
      (ofBuffer (Buffer.ofBody .standard [.expression d]) standardFilename st).1 = .ok r := by
  have performed : (Buffer.ofConfig .standard).performAll [.start, .piece (.expression d), .finish] =
      .ok (Buffer.ofBody .standard [.expression d]) := rfl
  have only : ∀ {P : Piece → Prop}, P (.expression d) →
      ∀ p, Step.piece p ∈ [.start, .piece (.expression d), .finish] → P p := by
    intro P holds p member
    simp only [List.mem_cons, List.not_mem_nil, or_false, reduceCtorEq, false_or, Step.piece.injEq] at member
    rwa [member]
  obtain ⟨source, given⟩ := @Buffer.source_written 4 st .standard rfl (by decide) [.expression d]
    (List.forall_mem_singleton.mpr ⟨t, written⟩)
  have placed : ∀ q ∈ Step.portionsOf 0 [.start, .piece (.expression d), .finish], q.HasRoom .standard st := by
    intro q member
    simp only [Step.portionsOf, Step.portions, Step.depthBehind, List.mem_cons, List.not_mem_nil, or_false,
      List.append_nil, List.cons_append, List.nil_append] at member
    rcases member with rfl | rfl | rfl
    · trivial
    · exact fun _ => room
    · trivial
  obtain ⟨r, loaded⟩ := ofBuffer_housed performed (only names) placed given rfl (List.cons_ne_nil _ _)
  exact ⟨source, r, given, loaded⟩

theorem ofBody_callable_panel : ∃ source r,
    (Buffer.ofBody .standard [.expression panel]).source Store.empty = .ok source ∧
      (ofBuffer (Buffer.ofBody .standard [.expression panel]) standardFilename Store.empty).1 = .ok r := by
  have names : ∀ g ∈ panel.borrowed, g.IsName := by
    simp only [panel, Descriptor.borrowed, Descriptor.borrowedOfAll]
    decide
  have room : (Statement.augment (wording "html") (panel.textTree Store.empty (wording "data"))).Fits 1 := by
    simp only [panel, Descriptor.textTree, Descriptor.tree, Descriptor.trees, Descriptor.stepTrees, Descriptor.stepTerm]
    decide
  exact ofBody_callable Descriptor.panel_source names room

def wordStatements : List Statement :=
  [.assign (wording "html") (.text []), .augment (wording "html") wordTree, .give (.name (wording "html"))]

theorem word_joins : ((Piece.expression wordCall).segment 1).Joins := by
  rw [wordCall, Piece.segment, Segment.Joins, Descriptor.borrowed, Descriptor.borrowedOfAll]
  exact List.forall_mem_singleton.mpr trivial

theorem word_rows (accepted : Config.standard.Accepted) {source : Text}
    (given : (Buffer.ofBody .standard [.expression wordCall]).source Store.empty = .ok source) :
    source = Text.ofRows (Buffer.renderRows .standard 4 wordStatements) := by
  obtain ⟨width, parts, whole, _, parted, rfl⟩ :=
    Buffer.source_parts accepted (List.forall_mem_singleton.mpr word_joins) given
  obtain rfl : width = 4 := Int.ofNat.inj (Option.some.inj whole).symm
  obtain ⟨j, more, first, later, rfl⟩ := ok_of_mapM_cons parted
  cases later
  obtain ⟨t, written, done⟩ := ok_of_bind first
  cases done
  rw [Buffer.ofBody_writer] at written
  obtain rfl : wordTree.spelled = t := Except.ok.inj (Descriptor.wordCall_source.symm.trans written)
  rfl

theorem word_fit : ∀ s ∈ wordStatements, s.spelled.Fit := by decide

theorem word_unread (accepted : Config.standard.Accepted) :
    ∃ f, Placed.read (Text.ofRows (Buffer.renderRows .standard 4 wordStatements)) = .error f ∧ f.problem ≠ .noRoom := by
  obtain ⟨left, unread⟩ := error_of_toBool
    (by decide +kernel : (Statement.read (Statement.augment (wording "html") wordTree).spelled).toBool = false)
  refine Buffer.read_broken accepted (by decide) accepted.spells_init (accepted.fits_init (by decide)) rfl word_fit (by decide) (by decide)
    (by rw [Library.firstRow_eq]; decide) fun count => ?_
  rw [Placed.readRow, unread]
  exact ⟨_, rfl, Placed.unread_told _ _ _ _ _⟩

/-- A descriptor whose source is given, with a word of the language for the name of a renderer, does not load. -/
theorem ofBody_callable_word : wordCall.textSource Store.empty (wording "data") = .ok (wording "to_text(class())") ∧
    ∃ source f, (Buffer.ofBody .standard [.expression wordCall]).source Store.empty = .ok source ∧
      (ofBuffer (Buffer.ofBody .standard [.expression wordCall]) standardFilename Store.empty).1 = .error (.load f) := by
  have accepted := Config.check_accepted Config.checked_standard
  obtain ⟨source, given⟩ := @Buffer.source_written 4 Store.empty .standard rfl (by decide) [.expression wordCall]
    (List.forall_mem_singleton.mpr ⟨_, Descriptor.wordCall_source⟩)
  obtain rfl := word_rows accepted given
  obtain ⟨f, unread, told⟩ := word_unread accepted
  have fit := Buffer.renderRows_fit_of (k := 4) accepted word_fit
  have refused := ofBuffer_broken (by decide : standardFilename.any isNull = false) given fit unread
  rw [sourceFault_load told] at refused
  exact ⟨Descriptor.wordCall_source, _, _, given, congrArg Prod.fst refused⟩

end Renderer

end RenderSource
