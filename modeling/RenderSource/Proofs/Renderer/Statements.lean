import RenderSource.Proofs.Buffer.Cutting
import RenderSource.Proofs.Code.Rows
import RenderSource.Proofs.Renderer.Body
/-!
The source of a renderer, as statements: its head, the library with its version, an empty output, one
statement for each piece of the merged body, and the output given back.
-/
namespace RenderSource

theorem Config.width_of_unit {c : Config} (accepted : c.Accepted) {t : Text} (done : c.indentUnit = .ok t) :
    ∃ width : Nat, 1 ≤ width ∧ c.indentWidth.asInt? = some (width : Int) := by
  unfold indentUnit repeated at done
  split at done
  · cases done
  · rename_i width whole
    have positive := accepted.positive whole
    exact ⟨width.toNat, by omega, by rw [whole]; exact congrArg some (by omega)⟩

theorem Statement.visible {s : Statement} (spells : s.Spells) : s.spelled.isBlank = false := by
  have shows : ∃ m ∈ ['(', '=', 'r'], CodePoint.scalar m ∈ s.spelled := by
    cases spells with
    | define | assign | augment | give => simp [spelled, wording, Text.ofString]
  obtain ⟨m, mark, inside⟩ := shows
  rw [Text.isBlank, List.all_eq_false]
  refine ⟨_, inside, ?_⟩
  simp only [List.mem_cons, List.not_mem_nil, or_false] at mark
  rcases mark with rfl | rfl | rfl <;> decide

theorem Statement.Spells.fit {s : Statement} (spells : s.Spells) : s.spelled.Fit := by
  cases spells with
  | define named given =>
    exact Text.fit_append (Text.fit_append (Text.fit_append (Text.fit_append (by decide) named.fit) (by decide))
      given.fit) (by decide)
  | assign named value | augment named value =>
    exact Text.fit_append (Text.fit_append named.fit (by decide)) value.fit
  | give value => exact Text.fit_append (by decide) value.fit

namespace Config.Accepted

variable {c : Config} (accepted : c.Accepted)

include accepted

theorem spells_head : Statement.Spells (.define c.functionName c.dataName) :=
  .define accepted.functionName accepted.dataName

theorem fits_head {level : Nat} (inside : level < Placed.blockLimit) :
    (Statement.define c.functionName c.dataName).Fits level :=
  accepted.spells_head.fits (by decide : 1 ≤ Statement.sureNesting) inside

theorem spells_init : Statement.Spells (.assign c.accumulator (.text [])) := .assign accepted.accumulator (.text [])

theorem spells_end : Statement.Spells (.give (.name c.accumulator)) := .give (.path (.name accepted.accumulator))

theorem fits_init {level : Nat} (inside : level < Placed.blockLimit) :
    (Statement.assign c.accumulator (.text [])).Fits level := accepted.spells_init.fits (Nat.zero_le _) inside

theorem fits_end {level : Nat} (inside : level < Placed.blockLimit) :
    (Statement.give (.name c.accumulator)).Fits level := accepted.spells_end.fits (Nat.zero_le _) inside

end Config.Accepted

/-- The statements of a body: the output begins empty, each piece is joined to it, and it is given back. -/
def Config.statements (c : Config) (st : Store) (ps : List Piece) : List Statement :=
  .assign c.accumulator (.text []) ::
    (ps.map fun p => .augment c.accumulator (p.term st c.dataName)) ++ [.give (.name c.accumulator)]

namespace Piece

variable {c : Config} {b : Buffer} {st : Store}

theorem CallsNames.joins {p : Piece} (calls : p.CallsNames) (n : Nat) : (p.segment n).Joins := by
  cases p with
  | version => exact (by decide : Text.Fit (wording "RENDERER_VERSION"))
  | expression d =>
    intro g taken
    cases g with
    | name n => trivial
    | form t => exact (calls _ taken).elim
  | literal t | data => trivial

theorem emitted_call {n : String} (named : (wording n).IsName) {m : Text} (given : m.IsName) :
    Term.Emitted .whole (.call (.name (wording n)) [.name m] []) :=
  .path (.call (.name named) (List.forall_mem_nil _) (List.forall_mem_singleton.mpr (.path (.name given)))
    (List.forall_mem_nil _))

theorem HasSource.emitted {dataName : Text} {p : Piece} (source : p.HasSource st dataName)
    (data : dataName.IsName) (calls : p.CallsNames) : Term.Emitted .whole (p.term st dataName) := by
  cases p with
  | literal t => exact .text t
  | data => exact emitted_call (by decide) data
  | version => exact emitted_call (by decide) (by decide)
  | expression d =>
    obtain ⟨t, written⟩ := source
    exact (Descriptor.textSource_tree written data calls).2

theorem HasSource.fits (accepted : c.Accepted) {p : Piece} (source : p.HasSource st c.dataName) (calls : p.CallsNames)
    (few : (p.term st c.dataName).nesting ≤ Statement.sureNesting) {level : Nat} (inside : level < Placed.blockLimit) :
    (Statement.augment c.accumulator (p.term st c.dataName)).Fits level :=
  (Statement.Spells.augment accepted.accumulator (source.emitted accepted.dataName calls)).fits few inside

theorem part_spelled (data : c.dataName.IsName) (writer : b.writer = .ofName c.dataName)
    {p : Piece} (calls : p.CallsNames) {n : Nat} {j : Nat × Joined} (done : b.part st (p.segment n) = .ok j) :
    j.1 = n ∧ j.2.source = (p.term st c.dataName).spelled ∧ p.HasSource st c.dataName := by
  cases p with
  | literal t =>
    cases done
    exact ⟨rfl, rfl, trivial⟩
  | data =>
    obtain ⟨t, given, done⟩ := ok_of_bind done
    cases done
    rw [writer] at given
    cases given
    exact ⟨rfl, rfl, trivial⟩
  | version =>
    cases done
    exact ⟨rfl, rfl, trivial⟩
  | expression d =>
    obtain ⟨t, written, done⟩ := ok_of_bind done
    cases done
    rw [writer] at written
    exact ⟨rfl, (Descriptor.textSource_tree written data calls).1, t, written⟩

theorem segment_other {p : Piece} (other : ∀ t, p ≠ literal t) (n m : Nat) (t : Text) :
    p.segment n ≠ .literal m t := by
  intro same
  cases p with
  | literal u => exact other u rfl
  | _ => cases same

theorem parts_fuse {n : Nat} (t : Text) {ps : List Piece} {js : List (Nat × Joined)}
    (done : ps.mapM (fun p => b.part st (p.segment n)) = .ok js) :
    (fuse t ps).mapM (fun p => b.part st (p.segment n)) = .ok (Joined.fuse n t js) := by
  cases ps with
  | nil =>
    cases done
    rfl
  | cons p ps =>
    obtain ⟨j, more, first, later, rfl⟩ := ok_of_mapM_cons done
    rcases p.literal_or with ⟨u, rfl⟩ | other
    · cases first
      rw [fuse, Joined.fuse, if_pos rfl]
      exact mapM_cons_ok rfl later
    · obtain ⟨m, code, rfl⟩ := Buffer.part_code (segment_other other n) first
      rw [fuse_other t other]
      exact mapM_cons_ok rfl (mapM_cons_ok first later)

theorem parts_runs {n : Nat} {ps : List Piece} {js : List (Nat × Joined)}
    (done : ps.mapM (fun p => b.part st (p.segment n)) = .ok js) :
    (runs ps).mapM (fun p => b.part st (p.segment n)) = .ok (Joined.runs js) := by
  induction ps generalizing js with
  | nil =>
    cases done
    rfl
  | cons p ps ih =>
    obtain ⟨j, more, first, later, rfl⟩ := ok_of_mapM_cons done
    rcases p.literal_or with ⟨u, rfl⟩ | other
    · cases first
      exact parts_fuse u (ih later)
    · obtain ⟨m, code, rfl⟩ := Buffer.part_code (segment_other other n) first
      rw [runs_other other]
      exact mapM_cons_ok first (ih later)

theorem part_empty {p : Piece} {n : Nat} {j : Nat × Joined} (done : b.part st (p.segment n) = .ok j) :
    j.2.isEmpty = p.isEmpty := by
  rcases p.literal_or with ⟨u, rfl⟩ | other
  · cases done
    rfl
  · obtain ⟨m, code, rfl⟩ := Buffer.part_code (segment_other other n) done
    cases p with
    | literal u => exact absurd rfl (other u)
    | _ => rfl

theorem parts_kept {n : Nat} {ps : List Piece} {js : List (Nat × Joined)}
    (done : List.Forall₂ (fun p j => b.part st (p.segment n) = .ok j) ps js) :
    List.Forall₂ (fun p j => b.part st (p.segment n) = .ok j) (ps.filter fun p => !p.isEmpty)
      (Joined.kept js) := by
  induction done with
  | nil => exact .nil
  | @cons p j ps js first _ ih =>
    have same := part_empty first
    rw [Joined.kept, List.filter_cons, List.filter_cons, same]
    split
    · exact .cons first ih
    · exact ih

theorem parts_merged {n : Nat} {ps : List Piece} {js : List (Nat × Joined)}
    (done : ps.mapM (fun p => b.part st (p.segment n)) = .ok js) :
    List.Forall₂ (fun p j => b.part st (p.segment n) = .ok j) (merged ps) (Joined.merged js) :=
  parts_kept (mapM_forall₂ (parts_runs done))

theorem CallFree.merged {ps : List Piece} (free : ∀ p ∈ ps, p.CallFree) : ∀ p ∈ merged ps, p.CallFree := by
  intro p member
  rcases mem_merged member with ⟨u, rfl⟩ | before
  · trivial
  · exact free p before

theorem rows_merged (data : c.dataName.IsName) (writer : b.writer = .ofName c.dataName) {ps : List Piece}
    (free : ∀ p ∈ ps, p.CallFree) {js : List (Nat × Joined)} (width : Nat)
    (done : List.Forall₂ (fun p j => b.part st (p.segment 1) = .ok j) ps js) :
    js.map (Buffer.row c width) = (ps.map fun p => Text.blanks width ++
        (Statement.augment c.accumulator (p.term st c.dataName)).spelled) ∧
      ∀ p ∈ ps, p.HasSource st c.dataName := by
  induction done with
  | nil => exact ⟨rfl, List.forall_mem_nil _⟩
  | @cons p j ps js first _ ih =>
    obtain ⟨here, later⟩ := List.forall_mem_cons.mp free
    obtain ⟨depth, spelled, source⟩ := part_spelled data writer here.callsNames first
    obtain ⟨rows, each⟩ := ih later
    refine ⟨?_, List.forall_mem_cons.mpr ⟨source, each⟩⟩
    rw [List.map_cons, List.map_cons, rows, Buffer.row, depth, spelled, Nat.one_mul]
    rfl

end Piece

theorem Statement.spelled_empty (n : Text) : (assign n (.text [])).spelled = n ++ wording " = \"\"" :=
  List.append_assoc _ _ _

namespace Buffer

def ofBody (c : Config) (body : List Piece) : Buffer :=
  (body.foldl Piece.appendTo (ofConfig c).appendStart).appendEnd.1

theorem foldl_appendTo (b : Buffer) (body : List Piece) :
    body.foldl Piece.appendTo b = { b with segments := b.segments ++ body.map (Piece.segment b.depth) } := by
  induction body generalizing b with
  | nil => simp
  | cons p body ih =>
    have appended : p.appendTo b = b.append (p.segment b.depth) := by cases p <;> rfl
    rw [List.foldl_cons, appended, ih]
    simp [append]

theorem segments_ofBody (c : Config) (body : List Piece) : (ofBody c body).segments =
    .raw 0 (Statement.define c.functionName c.dataName).spelled :: .raw 1 (Library.stamped c.version) ::
      .raw 1 (Statement.assign c.accumulator (.text [])).spelled ::
        (body.map (Piece.segment 1) ++ [.raw 1 (Statement.give (.name c.accumulator)).spelled]) := by
  rw [ofBody, foldl_appendTo, Statement.spelled_empty]
  rfl

theorem ofBody_config (c : Config) (body : List Piece) : (ofBody c body).config = c := by
  rw [ofBody, foldl_appendTo]
  rfl

theorem ofBody_writer (c : Config) (body : List Piece) : (ofBody c body).writer = .ofName c.dataName := by
  rw [ofBody, foldl_appendTo]
  rfl

variable {b : Buffer} {width : Nat} {st : Store}

theorem segmentRows_indented (whole : b.config.indentWidth.asInt? = some (width : Int)) {n : Nat} {t : Text}
    {rs : List Text} (done : b.segmentRows st (.raw n t) = .ok rs) :
    rs = Layout.rows (Text.blanks (n * width)) t := by
  unfold segmentRows at done
  obtain ⟨_, stated, done⟩ := ok_of_bind done
  cases stated
  obtain ⟨unit, blanks, done⟩ := ok_of_bind done
  obtain ⟨indent, deep, done⟩ := ok_of_bind done
  cases done
  rw [Config.indentUnit_ok whole blanks] at deep
  rw [repeated_blanks rfl deep]

theorem segmentRows_statement (whole : b.config.indentWidth.asInt? = some (width : Int)) {n : Nat}
    {s : Statement} (spells : s.Spells) {rs : List Text}
    (done : b.segmentRows st (.raw n s.spelled) = .ok rs) :
    rs = [Text.blanks (n * width) ++ s.spelled] := by
  rw [segmentRows_indented whole done, layout_row spells.fit (Statement.visible spells)]

def renderRows (c : Config) (width : Nat) (ss : List Statement) : List Text :=
  (Statement.define c.functionName c.dataName).spelled ::
    (Library.placedRows (Text.blanks width) (c.version.getD Library.placeholder) ++
      ss.map fun s => Text.blanks width ++ s.spelled)

theorem rowsAfter_raw {n : Nat} {t : Text} {more : List Segment} {rs : List Text}
    (done : b.rowsAfter st none (.raw n t :: more) = .ok rs) :
    ∃ here later, b.segmentRows st (.raw n t) = .ok here ∧ b.rowsAfter st none more = .ok later ∧
      rs = here ++ later := by
  rw [rowsAfter_other none fun m u same => by cases same] at done
  obtain ⟨before, flushed, done⟩ := ok_of_bind done
  obtain ⟨here, written, done⟩ := ok_of_bind done
  obtain ⟨later, behind, done⟩ := ok_of_bind done
  cases flushed
  cases done
  exact ⟨here, later, written, behind, rfl⟩

/-- The source of a renderer is that of the parts of its body, put together, behind its start and in front of its
end. -/
theorem source_parts {c : Config} (accepted : c.Accepted) {body : List Piece}
    (each : ∀ p ∈ body, (p.segment 1).Joins) {source : Text} (done : (ofBody c body).source st = .ok source) :
    ∃ (width : Nat) (parts : List (Nat × Joined)), c.indentWidth.asInt? = some (width : Int) ∧ 1 ≤ width ∧
      body.mapM (fun p => (ofBody c body).part st (p.segment 1)) = .ok parts ∧
      source = Text.ofRows ((Statement.define c.functionName c.dataName).spelled ::
        (Library.placedRows (Text.blanks width) (c.version.getD Library.placeholder) ++
          (Text.blanks width ++ (Statement.assign c.accumulator (.text [])).spelled) ::
            ((Joined.merged parts).map (row c width) ++
              [Text.blanks width ++ (Statement.give (.name c.accumulator)).spelled]))) := by
  have config := ofBody_config c body
  have writer := ofBody_writer c body
  obtain ⟨rs, laid, same⟩ := ok_of_bind done
  cases same
  rw [rows, segments_ofBody] at laid
  obtain ⟨head, inside, written, laidInside, rfl⟩ := rowsAfter_raw laid
  obtain ⟨library, outputs, stamped, laidOutputs, rfl⟩ := rowsAfter_raw laidInside
  obtain ⟨init, joined, begun, laidJoined, rfl⟩ := rowsAfter_raw laidOutputs
  obtain ⟨width, positive, whole⟩ : ∃ width : Nat, 1 ≤ width ∧
      (ofBody c body).config.indentWidth.asInt? = some (width : Int) := by
    obtain ⟨_, stated, written⟩ := ok_of_bind written
    obtain ⟨unit, blanks, _⟩ := ok_of_bind written
    rw [config] at blanks ⊢
    exact Config.width_of_unit accepted blanks
  have plainly : (ofBody c body).Plainly width := ⟨by rwa [config], by rw [writer, config], whole⟩
  have joins : ∀ s ∈ body.map (Piece.segment 1), s.Joins := List.forall_mem_map.mpr each
  obtain ⟨parts, last, parted, closed, rfl⟩ := rowsAfter_merged plainly joins (by simp) laidJoined
  obtain ⟨given, behind, returned, ended, rfl⟩ := rowsAfter_raw closed
  cases ended
  rw [List.mapM_map] at parted
  refine ⟨width, parts, by rwa [config] at whole, positive, parted, ?_⟩
  rw [segmentRows_statement whole accepted.spells_head written,
    segmentRows_indented whole stamped, Library.rows_placed,
    segmentRows_statement whole accepted.spells_init begun,
    segmentRows_statement whole accepted.spells_end returned, config, Joined.held, List.nil_append]
  simp [Text.blanks]

theorem source_ofBody {c : Config} (accepted : c.Accepted) {body : List Piece} (free : ∀ p ∈ body, p.CallFree)
    {source : Text} (done : (ofBody c body).source st = .ok source) :
    ∃ width : Nat, c.indentWidth.asInt? = some (width : Int) ∧ 1 ≤ width ∧
      source = Text.ofRows (renderRows c width (c.statements st (Piece.merged body))) ∧
        ∀ p ∈ Piece.merged body, p.HasSource st c.dataName := by
  obtain ⟨width, parts, whole, positive, parted, rfl⟩ := source_parts accepted (fun p member => (free p member).callsNames.joins 1) done
  obtain ⟨rows, sources⟩ := Piece.rows_merged accepted.dataName (ofBody_writer c body) (Piece.CallFree.merged free) width
    (Piece.parts_merged parted)
  refine ⟨width, whole, positive, ?_, sources⟩
  rw [rows]
  simp [renderRows, Config.statements, Function.comp_def]

end Buffer

end RenderSource
