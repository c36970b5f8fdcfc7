import RenderSource.Proofs.Buffer.Merging
/-!
Source of a buffer read back row by row. The blanks in front tell the depth, the quote tells a literal
from an expression, and undoing the quoting gives the literal: what was appended can be read off, up to
the runs of literals that became one.
-/
namespace RenderSource

def Text.sourceRows (t : Text) : List Text := if t.isEmpty then [] else t.rows

namespace Joined

def read? (accumulator : Text) (t : Text) : Option Joined := do
  let code ← Text.dropFront? (accumulator ++ wording " += ") t
  if code.head? = some (.scalar '"') then
    match Text.unquote? code with
    | some (t, []) => some (literal t)
    | _ => none
  else some (.code code)

/-- A row of source: the depth by its blanks, and the statement. -/
def readRow? (accumulator : Text) (width : Nat) (r : Text) : Option (Nat × Joined) :=
  let blanks := r.takeWhile (· = .scalar ' ')
  (read? accumulator (r.drop blanks.length)).map (blanks.length / width, ·)

def readSource? (accumulator : Text) (width : Nat) (t : Text) : Option (List (Nat × Joined)) :=
  t.sourceRows.mapM (readRow? accumulator width)

end Joined

theorem Text.dropFront_append (p t : Text) : dropFront? p (p ++ t) = some t := by
  induction p with
  | nil => cases t <;> rfl
  | cons c p ih => simp [dropFront?, ih]

theorem Text.takeWhile_blanks (n : Nat) {t : Text} (visible : t.head? ≠ some (.scalar ' ')) :
    (blanks n ++ t).takeWhile (· = .scalar ' ') = blanks n := by
  induction n with
  | zero =>
    cases t with
    | nil => rfl
    | cons c t =>
      have : c ≠ .scalar ' ' := by simpa using visible
      simp [blanks, this]
  | succ n ih => simpa [blanks, List.replicate_succ] using ih

theorem Text.sourceRows_ofRows {rs : List Text} (some_text : ∀ r ∈ rs, r ≠ [])
    (inRow : ∀ r ∈ rs, newline ∉ r) : (ofRows rs).sourceRows = rs := by
  cases rs with
  | nil => rfl
  | cons r rs =>
    have front : (ofRows (r :: rs)).isEmpty = false := by
      have first := some_text r (by simp)
      cases rs with
      | nil => simpa [ofRows, joinWith] using first
      | cons s rs =>
        rw [ofRows_cons_cons]
        simp
    rw [sourceRows, front]
    exact rows_ofRows (r :: rs) (by simp) inRow

theorem Text.mem_ofRows {rs : List Text} {c : CodePoint} (member : c ∈ ofRows rs) :
    c = newline ∨ ∃ r ∈ rs, c ∈ r := by
  induction rs with
  | nil => cases member
  | cons r rs ih =>
    cases rs with
    | nil => exact .inr ⟨r, by simp, member⟩
    | cons s rs =>
      rw [ofRows_cons_cons, List.mem_append, List.mem_cons] at member
      rcases member with front | rfl | back
      · exact .inr ⟨r, by simp, front⟩
      · exact .inl rfl
      · rcases ih back with ends | ⟨u, later, inside⟩
        · exact .inl ends
        · exact .inr ⟨u, List.mem_cons_of_mem r later, inside⟩

/-- What can be told apart from a literal. -/
def Joined.Readable : Joined → Prop
  | literal _ => True
  | code t => t.head? ≠ some (.scalar '"')

theorem Joined.read_source (accumulator : Text) {j : Joined} (readable : j.Readable) :
    read? accumulator (accumulator ++ wording " += " ++ j.source) = some j := by
  unfold read?
  rw [Text.dropFront_append]
  cases j with
  | literal t =>
    have whole := Text.unquote_quote t []
    rw [List.append_nil] at whole
    have quoted : t.quote.head? = some (.scalar '"') := rfl
    simp [source, quoted, whole]
  | code t =>
    have plain : t.head? ≠ some (.scalar '"') := readable
    simp [source, plain]

namespace Buffer

variable {b : Buffer} {width : Nat} {st : Store}

theorem readRow_row {c : Config} (accepted : c.Accepted) (positive : 1 ≤ width) {p : Nat × Joined}
    (readable : p.2.Readable) : Joined.readRow? c.accumulator width (row c width p) = some p := by
  have visible : (joinStatement c p.2.source).head? ≠ some (.scalar ' ') := by
    rw [joinStatement, List.append_assoc]
    exact Text.head?_ne_of_isIdentifier accepted.accumulator.1 (by decide) _
  have depth : p.1 * width / width = p.1 := Nat.mul_div_cancel p.1 (by omega)
  rw [Joined.readRow?, row, Text.takeWhile_blanks _ visible]
  simp only [List.length_replicate, Text.blanks, List.drop_left', depth]
  rw [joinStatement, Joined.read_source c.accumulator readable]
  rfl

theorem mem_fuse {n : Nat} {t : Text} {later : List (Nat × Joined)} {p : Nat × Joined}
    (member : p ∈ Joined.fuse n t later) : (∃ u, p.2 = .literal u) ∨ p ∈ later := by
  unfold Joined.fuse at member
  split at member
  · split at member
    · rcases List.mem_cons.mp member with rfl | rest
      · exact .inl ⟨_, rfl⟩
      · exact .inr (List.mem_cons_of_mem _ rest)
    · rcases List.mem_cons.mp member with rfl | rest
      · exact .inl ⟨_, rfl⟩
      · exact .inr rest
  · rcases List.mem_cons.mp member with rfl | rest
    · exact .inl ⟨_, rfl⟩
    · exact .inr rest

theorem mem_merged {parts : List (Nat × Joined)} {p : Nat × Joined}
    (member : p ∈ Joined.merged parts) : (∃ t, p.2 = .literal t) ∨ p ∈ parts := by
  have inside : p ∈ Joined.runs parts := (List.mem_filter.mp member).1
  clear member
  induction parts with
  | nil => cases inside
  | cons q parts ih =>
    obtain ⟨n, j⟩ := q
    cases j with
    | literal t =>
      rcases mem_fuse inside with literal | rest
      · exact .inl literal
      · exact (ih rest).imp id (List.mem_cons_of_mem _)
    | code t =>
      rcases List.mem_cons.mp inside with rfl | rest
      · exact .inr (by simp)
      · exact (ih rest).imp id (List.mem_cons_of_mem _)

theorem parts_sound (plainly : b.Plainly width) {segments : List Segment}
    (joins : ∀ s ∈ segments, s.Joins) {parts : List (Nat × Joined)}
    (done : segments.mapM (b.part st) = .ok parts) :
    ∀ p ∈ parts, p.2.source.Fit ∧ p.2.Readable := by
  induction segments generalizing parts with
  | nil => cases done; exact List.forall_mem_nil _
  | cons s segments ih =>
    obtain ⟨p, ps, first, more, rfl⟩ := ok_of_mapM_cons done
    obtain ⟨fit, readable⟩ := part_fit plainly (joins s (by simp)) first
    refine List.forall_mem_cons.mpr ⟨⟨fit, ?_⟩, ih (fun r member => joins r (by simp [member])) more⟩
    cases same : p.2 with
    | literal t => trivial
    | code t => exact readable t same

theorem readRows_rows {c : Config} (accepted : c.Accepted) (positive : 1 ≤ width)
    {ps : List (Nat × Joined)} (readable : ∀ p ∈ ps, p.2.Readable) :
    (ps.map (row c width)).mapM (Joined.readRow? c.accumulator width) = some ps := by
  induction ps with
  | nil => rfl
  | cons p ps ih =>
    have later := ih fun q member => readable q (List.mem_cons_of_mem p member)
    rw [List.map_cons, List.mapM_cons, readRow_row accepted positive (readable p (by simp)), later]
    rfl

theorem row_ne_nil (c : Config) (p : Nat × Joined) : row c width p ≠ [] := by
  simp [row, joinStatement, wording, Text.ofString]

def samplePath : Descriptor :=
  .accessor [.plain (.ofText (wording "key")), .plain Descriptor.namedNumber]

def sampleBuffer : Buffer :=
  { config := .standard
    writer := .ofName Config.standard.dataName
    segments := [.literal 1 (wording "a\n"), .literal 1 (wording "\""), .literal 0 [], .data 1,
      .expression 2 samplePath] }

end Buffer

end RenderSource
