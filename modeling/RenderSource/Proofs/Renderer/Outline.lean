import RenderSource.Proofs.Renderer.Reading
import RenderSource.Proofs.Renderer.Steps
/-!
The outline of a source: its statements with their rows and depths, as a buffer emits them. For portions these
are the statements that the rows of the portions spell.
-/
namespace RenderSource

/-- A statement of a source: the row that it begins in, its depth, and whether it is the head of a function. -/
structure Entry where
  row : Nat
  depth : Nat
  opens : Bool
  deriving DecidableEq, Repr

def Segment.opens : Segment → Bool
  | raw _ t => (wording "def ").isPrefixOf t
  | _ => false

def Placed.entry (p : Placed) : Entry := ⟨p.row, p.level, isDefine p.statement⟩

namespace Buffer

def outlineFrom (b : Buffer) (st : Store) (row : Nat) : List Segment → List Entry
  | [] => []
  | g :: gs =>
    let rows := ((b.alone g).rows st).toOption.getD []
    let here := if rows.isEmpty then [] else [⟨row, g.depth?.getD 0, g.opens⟩]
    here ++ outlineFrom b st (row + rows.length) gs

def outline (b : Buffer) (st : Store) : List Entry := b.outlineFrom st 1 (Segment.groups b.segments)

variable {b : Buffer} {st : Store}

theorem outlineFrom_cons {g : Segment} {rs : List Text} (written : (b.alone g).rows st = .ok rs) (row : Nat)
    (gs : List Segment) : b.outlineFrom st row (g :: gs) =
      (if rs.isEmpty then [] else [⟨row, g.depth?.getD 0, g.opens⟩]) ++ b.outlineFrom st (row + rs.length) gs := by
  rw [outlineFrom, written]
  rfl

theorem outlineFrom_append {gs : List Segment} {rs : List Text} (written : b.groupRows st gs = .ok rs) (row : Nat)
    (hs : List Segment) :
    b.outlineFrom st row (gs ++ hs) = b.outlineFrom st row gs ++ b.outlineFrom st (row + rs.length) hs := by
  induction gs generalizing row rs with
  | nil =>
    cases written
    rfl
  | cons g gs ih =>
    rw [groupRows_cons] at written
    obtain ⟨here, first, written⟩ := ok_of_bind written
    obtain ⟨behind, later, written⟩ := ok_of_bind written
    cases written
    rw [List.cons_append, outlineFrom_cons first, outlineFrom_cons first, ih later, List.append_assoc, List.length_append,
      Nat.add_assoc]

end Buffer

namespace Portion

section

variable (c : Config) (st : Store) (width : Nat)

def statementRow (n : Nat) (s : Statement) : Text := Text.blanks (n * width) ++ s.spelled

def libraryRows (n : Nat) : List Text :=
  Library.placedRows (Text.blanks (n * width)) (c.version.getD Library.placeholder)

def rows : Portion → List Text
  | opening n =>
    statementRow width n (.define c.functionName c.dataName) ::
      (libraryRows c width (n + 1) ++ [statementRow width (n + 1) (.assign c.accumulator (.text []))])
  | piece n p => [statementRow width n (.augment c.accumulator (p.term st c.dataName))]
  | closing n => [statementRow width n (.give (.name c.accumulator))]

def placedAt (row n : Nat) (s : Statement) : Placed := ⟨row, n, n * width, statementRow width n s, s⟩

def libraryAt (row n : Nat) : Placed :=
  ⟨row, n, n * width, Text.blanks (n * width) ++ Library.firstRow, .library (c.version.getD Library.placeholder)⟩

def placed (row : Nat) : Portion → List Placed
  | opening n =>
    [ placedAt width row n (.define c.functionName c.dataName), libraryAt c width (row + 1) (n + 1),
      placedAt width (row + 1 + (libraryRows c width (n + 1)).length) (n + 1) (.assign c.accumulator (.text [])) ]
  | piece n p => [placedAt width row n (.augment c.accumulator (p.term st c.dataName))]
  | closing n => [placedAt width row n (.give (.name c.accumulator))]

def placedFrom (row : Nat) : List Portion → List Placed
  | [] => []
  | p :: ps => p.placed c st width row ++ placedFrom (row + (p.rows c st width).length) ps

end

variable {c : Config} {b : Buffer} {st : Store} {width : Nat}

theorem placedFrom_append (row : Nat) (ps qs : List Portion) :
    placedFrom c st width row (ps ++ qs) =
      placedFrom c st width row ps ++ placedFrom c st width (row + (ps.flatMap (rows c st width)).length) qs := by
  induction ps generalizing row with
  | nil => rfl
  | cons p ps ih =>
    rw [List.cons_append, placedFrom, placedFrom, ih, List.append_assoc, List.flatMap_cons, List.length_append,
      Nat.add_assoc]

theorem opens_statement {n : Nat} {s : Statement} (spells : s.Spells) :
    (Segment.raw n s.spelled).opens = Placed.isDefine s := by
  -- the word in front of the first blank would be a name, and names are no words of the language
  have other : ∀ m u : Text, m.IsName → (wording "def ").isPrefixOf (m ++ .scalar ' ' :: u) = false := by
    intro m u named
    rw [Bool.eq_false_iff, ne_eq, List.isPrefixOf_iff_prefix]
    rintro ⟨v, same⟩
    have words : Term.spanName (wording "def" ++ .scalar ' ' :: v) = Term.spanName (m ++ .scalar ' ' :: u) :=
      congrArg Term.spanName same
    rw [Statement.spanName_word (by decide), Statement.spanName_word named.1] at words
    exact named.not_reserved (by decide) (congrArg Prod.fst words).symm
  cases spells with
  | define named given =>
    rw [Segment.opens, Statement.spelled, Placed.isDefine, List.isPrefixOf_iff_prefix]
    simp only [List.append_assoc]
    exact List.prefix_append _ _
  | assign named value =>
    rw [Segment.opens, Statement.spelled_assign]
    exact other _ _ named
  | augment named value =>
    rw [Segment.opens, Statement.spelled_augment]
    exact other _ _ named
  | give value => rfl

theorem opens_library (n : Nat) (v : Option Text) : (Segment.raw n (Library.stamped v)).opens = false := by
  obtain ⟨r, rest, front⟩ : ∃ r rest, Library.frontRows = wording "import datetime" :: r :: rest := ⟨_, _, rfl⟩
  rw [Segment.opens, Library.stamped_eq, Library.versionRows, front, List.cons_append, List.cons_append,
    Text.ofRows_cons_cons]
  rfl

section

variable (plainly : b.Plainly width)

include plainly

theorem written_statement {n : Nat} {s : Statement} (spells : s.Spells) {rs : List Text}
    (done : (b.alone (.raw n s.spelled)).rows st = .ok rs) (row : Nat) (gs : List Segment) :
    rs = [statementRow width n s] ∧ b.outlineFrom st row (.raw n s.spelled :: gs) =
      (placedAt width row n s).entry :: b.outlineFrom st (row + 1) gs := by
  have laid : rs = [statementRow width n s] := by
    rw [Buffer.alone_raw] at done
    exact Buffer.segmentRows_statement plainly.whole spells done
  refine ⟨laid, ?_⟩
  rw [Buffer.outlineFrom_cons done, opens_statement spells, laid]
  rfl

theorem written_library {n : Nat} {rs : List Text}
    (done : (b.alone (.raw n (Library.stamped b.config.version))).rows st = .ok rs) (row : Nat) (gs : List Segment) :
    rs = libraryRows b.config width n ∧ b.outlineFrom st row (.raw n (Library.stamped b.config.version) :: gs) =
      (libraryAt b.config width row n).entry :: b.outlineFrom st (row + (libraryRows b.config width n).length) gs := by
  have laid : rs = libraryRows b.config width n := by
    rw [Buffer.alone_raw] at done
    rw [Buffer.segmentRows_indented plainly.whole done, Library.rows_placed]
    rfl
  obtain ⟨others, first⟩ := Library.placedRows_head (Text.blanks (n * width)) (b.config.version.getD Library.placeholder)
  have shown : rs.isEmpty = false := by rw [laid, libraryRows, first, List.isEmpty_cons]
  refine ⟨laid, ?_⟩
  rw [Buffer.outlineFrom_cons done, opens_library, shown, laid]
  rfl

theorem written_piece {n : Nat} {p : Piece} (calls : p.CallsNames) {rs : List Text}
    (done : (b.alone (p.segment n)).rows st = .ok rs) (shown : p.isEmpty = false) (row : Nat) (gs : List Segment) :
    let s := Statement.augment b.config.accumulator (p.term st b.config.dataName)
    rs = [statementRow width n s] ∧ b.outlineFrom st row (p.segment n :: gs) =
      (placedAt width row n s).entry :: b.outlineFrom st (row + 1) gs ∧ p.HasSource st b.config.dataName := by
  have laid : b.segmentRows st (p.segment n) = .ok rs := by
    rcases p.literal_or with ⟨t, rfl⟩ | other
    · cases t with
      | nil => cases shown
      | cons d t =>
        rw [Piece.segment, Buffer.alone_literal] at done
        exact done
    · rwa [Buffer.alone_other (Piece.segment_other other n)] at done
  obtain ⟨j, part, same⟩ := Buffer.segmentRows_joins plainly (calls.joins n) laid
  obtain ⟨depth, source, has⟩ := Piece.part_spelled plainly.accepted.dataName plainly.writer calls part
  have spelled : rs = [statementRow width n (.augment b.config.accumulator (p.term st b.config.dataName))] := by
    rw [same, Buffer.row, depth, source]
    rfl
  refine ⟨spelled, ?_, has⟩
  have flat : (p.segment n).opens = false ∧ (p.segment n).depth?.getD 0 = n := by cases p <;> exact ⟨rfl, rfl⟩
  rw [Buffer.outlineFrom_cons done, flat.1, flat.2, spelled]
  rfl

/-- A portion as it is written alone: its rows, unless it is a literal without text. -/
theorem written_alone {q : Portion} (calls : ∀ n p, q = .piece n p → p.CallsNames) {rs : List Text}
    (done : b.groupRows st (q.segments b.config) = .ok rs) (row : Nat) :
    rs = (kept [q]).flatMap (rows b.config st width) ∧
      b.outlineFrom st row (q.segments b.config) = (placedFrom b.config st width row (kept [q])).map Placed.entry ∧
      ∀ n p, .piece n p ∈ kept [q] → p.HasSource st b.config.dataName := by
  have accepted := plainly.accepted
  cases q with
  | opening n =>
    obtain ⟨headRows, first, done⟩ := ok_of_bind ((Buffer.groupRows_cons _ _).symm.trans done)
    obtain ⟨inside, later, done⟩ := ok_of_bind done
    cases done
    obtain ⟨library, second, later⟩ := ok_of_bind ((Buffer.groupRows_cons _ _).symm.trans later)
    obtain ⟨last, third, later⟩ := ok_of_bind later
    cases later
    rw [Buffer.groupRows_singleton] at third
    obtain ⟨rfl, headEntry⟩ := written_statement plainly accepted.spells_head first row _
    obtain ⟨rfl, libraryEntry⟩ := written_library plainly second (row + 1) _
    obtain ⟨rfl, initEntry⟩ := written_statement plainly accepted.spells_init third (row + 1 + (libraryRows b.config width (n + 1)).length) []
    refine ⟨by simp [kept, isEmpty, rows], ?_, by simp [kept, isEmpty]⟩
    exact headEntry.trans (congrArg _ (libraryEntry.trans (congrArg _ initEntry)))
  | piece n p =>
    rw [segments, Buffer.groupRows_singleton] at done
    by_cases empty : p.isEmpty = true
    · have none : kept [piece n p] = [] := by simp [kept, isEmpty, empty]
      obtain ⟨t, rfl⟩ | other := p.literal_or
      · obtain rfl : t = [] := by simpa [Piece.isEmpty] using empty
        rw [Piece.segment, Buffer.alone_empty] at done
        cases done
        rw [none, segments, Piece.segment, Buffer.outlineFrom_cons (Buffer.alone_empty n)]
        exact ⟨rfl, rfl, fun _ _ member => absurd member List.not_mem_nil⟩
      · cases p with
        | literal t => exact absurd rfl (other t)
        | _ => cases empty
    · have one : kept [piece n p] = [piece n p] := by simp [kept, isEmpty, empty]
      obtain ⟨rfl, entry, has⟩ := written_piece plainly (calls n p rfl) done (Bool.eq_false_iff.mpr empty) row []
      rw [one]
      refine ⟨by simp [rows], entry, ?_⟩
      intro m q member
      cases List.mem_singleton.mp member
      exact has
  | closing n =>
    rw [segments, Buffer.groupRows_singleton] at done
    obtain ⟨rfl, entry⟩ := written_statement plainly accepted.spells_end done row []
    exact ⟨by simp [kept, isEmpty, rows], entry, by simp [kept, isEmpty]⟩

theorem written_all {qs : List Portion} (calls : ∀ n p, .piece n p ∈ qs → p.CallsNames) {rs : List Text}
    (done : b.groupRows st (qs.flatMap (segments b.config)) = .ok rs) (row : Nat) :
    rs = (kept qs).flatMap (rows b.config st width) ∧
      b.outlineFrom st row (qs.flatMap (segments b.config)) =
        (placedFrom b.config st width row (kept qs)).map Placed.entry ∧
      ∀ n p, .piece n p ∈ kept qs → p.HasSource st b.config.dataName := by
  induction qs generalizing row rs with
  | nil =>
    cases done
    exact ⟨rfl, rfl, fun _ _ member => absurd member List.not_mem_nil⟩
  | cons q qs ih =>
    rw [List.flatMap_cons, Buffer.groupRows_append] at done
    obtain ⟨here, first, done⟩ := ok_of_bind done
    obtain ⟨behind, later, done⟩ := ok_of_bind done
    cases done
    have own : ∀ n p, q = .piece n p → p.CallsNames := by
      intro n p same
      exact calls n p (same ▸ List.mem_cons_self)
    obtain ⟨laid, entries, sources⟩ := written_alone plainly own first row
    obtain ⟨laidBehind, entriesBehind, sourcesBehind⟩ :=
      ih (fun n p member => calls n p (List.mem_cons_of_mem q member)) later (row + here.length)
    rw [kept_cons]
    refine ⟨?_, ?_, ?_⟩
    · rw [List.flatMap_append, ← laid, ← laidBehind]
    · rw [List.flatMap_cons, Buffer.outlineFrom_append first, entries, entriesBehind, placedFrom_append, List.map_append,
        ← laid]
    · intro n p member
      rcases List.mem_append.mp member with inside | outside
      · exact sources n p inside
      · exact sourcesBehind n p outside

end

end Portion

namespace Buffer

open Portion (Keeps kept)

theorem outline_portions {b : Buffer} {width : Nat} (plainly : b.Plainly width) {qs : List Portion}
    (grouped : Segment.groups b.segments = qs.flatMap (Portion.segments b.config))
    (calls : ∀ n p, .piece n p ∈ qs → p.CallsNames) {st : Store} {source : Text} (given : b.source st = .ok source) :
    source = Text.ofRows ((kept qs).flatMap (Portion.rows b.config st width)) ∧
      b.outline st = (Portion.placedFrom b.config st width 1 (kept qs)).map Placed.entry ∧
      ∀ n p, .piece n p ∈ kept qs → p.HasSource st b.config.dataName := by
  obtain ⟨rs, laid, same⟩ := ok_of_bind given
  cases same
  rw [rows_groups, grouped] at laid
  obtain ⟨whole, outline, sources⟩ := Portion.written_all plainly calls laid 1
  rw [Buffer.outline, grouped]
  exact ⟨congrArg Text.ofRows whole, outline, sources⟩

theorem plainly_performed {c : Config} (accepted : c.Accepted) {width : Nat}
    (whole : c.indentWidth.asInt? = some (width : Int)) {steps : List Step} {b : Buffer}
    (performed : (ofConfig c).performAll steps = .ok b) : b.config = c ∧ b.Plainly width := by
  obtain ⟨_, config, writer, _⟩ := performAll_ok performed
  have config : b.config = c := config
  exact ⟨config, config ▸ accepted, by rw [writer, config]; rfl, config ▸ whole⟩

/-- Behind steps whose portions are groups already, the outline is that of the portions. -/
theorem outline_performed {c : Config} (accepted : c.Accepted) {width : Nat}
    (whole : c.indentWidth.asInt? = some (width : Int)) {steps : List Step} {b : Buffer} {st : Store}
    (performed : (ofConfig c).performAll steps = .ok b) (calls : ∀ p, .piece p ∈ steps → p.CallsNames)
    (apart : Segment.groups ((Step.portionsOf 0 steps).flatMap (Portion.segments c)) =
      (Step.portionsOf 0 steps).flatMap (Portion.segments c)) {source : Text} (given : b.source st = .ok source) :
    b.outline st = (Portion.placedFrom c st width 1 (kept (Step.portionsOf 0 steps))).map Placed.entry := by
  have segments : b.segments = (Step.portionsOf 0 steps).flatMap (Portion.segments c) := (performAll_ok performed).1
  obtain ⟨rfl, plainly⟩ := plainly_performed accepted whole performed
  exact (outline_portions plainly ((congrArg Segment.groups segments).trans apart)
    (fun n p member => calls p (Step.piece_of_portion member)) given).2.1

theorem performed_portions {c : Config} (accepted : c.Accepted) {width : Nat}
    (whole : c.indentWidth.asInt? = some (width : Int)) {steps : List Step} {b : Buffer} {st : Store}
    (performed : (ofConfig c).performAll steps = .ok b) (calls : ∀ p, .piece p ∈ steps → p.CallsNames) {source : Text}
    (given : b.source st = .ok source) :
    ∃ ps, Keeps (Step.portionsOf 0 steps) ps ∧ source = Text.ofRows (ps.flatMap (Portion.rows c st width)) ∧
      b.outline st = (Portion.placedFrom c st width 1 ps).map Placed.entry ∧
      (∀ n p, .piece n p ∈ ps → p.HasSource st c.dataName) ∧ ∀ n, .closing n ∈ ps → n ≠ 0 := by
  obtain ⟨segments, _, _, inside⟩ := performAll_ok performed
  obtain ⟨rfl, plainly⟩ := plainly_performed accepted whole performed
  obtain ⟨qs, grouped, keeps⟩ := Portion.groups_portions b.config (Step.portionsOf 0 steps)
  have called : ∀ q ∈ qs, ∀ n p, q = .piece n p → p.CallsNames := by
    refine keeps.forall (fun n t m p same => ?_) (fun q member n p same => ?_)
    · cases same
      trivial
    · exact calls p (Step.piece_of_portion (same ▸ member))
  obtain ⟨text, outline, sources⟩ := outline_portions plainly ((congrArg Segment.groups segments).trans grouped)
    (fun n p member => called _ member n p rfl) given
  have kept := keeps.trans (.kept qs)
  have ends : ∀ q ∈ Portion.kept qs, ∀ n, q = .closing n → n ≠ 0 := by
    refine kept.forall (fun n t m same => by cases same) (fun q member n same => ?_)
    exact inside n (same ▸ member)
  exact ⟨Portion.kept qs, kept, text, outline, sources, fun n member => ends _ member n rfl⟩

end Buffer

end RenderSource
