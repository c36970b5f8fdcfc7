import RenderSource.Proofs.Renderer.Steps
/-!
When a body, or a buffer behind steps, has source: as soon as each of the pieces has it, and the blanks in front
fit into memory.
-/
namespace RenderSource

theorem repeated_of_small {t : Text} {n : Nat} {v : Value} (count : v.asInt? = some (n : Int))
    (limited : n < memoryLimit) (small : n * t.length < memoryLimit) : repeated t v = .ok (List.replicate n t).flatten := by
  have below : memoryLimit < sizeLimit := by decide
  have bounded : ¬((sizeLimit : Int) ≤ (n : Int) ∨ (n : Int) < -(sizeLimit : Int)) := by omega
  unfold repeated
  rw [count]
  dsimp only
  rw [if_neg bounded, Int.toNat_natCast, if_neg (by omega), if_neg (by omega)]

namespace Buffer

variable {b : Buffer} {width : Nat} {st : Store}

section

variable (whole : b.config.indentWidth.asInt? = some (width : Int)) (small : width < memoryLimit)
variable {depth : Nat} (few : depth < memoryLimit) (narrow : depth * width < memoryLimit)

include whole small few narrow

theorem segmentRows_written {n : Nat} (shallow : n ≤ depth) {s : Segment} {t : Text}
    (stated : b.statement st s = .ok (.ofInt n, .ok t)) : ∃ rs, b.segmentRows st s = .ok rs := by
  have unit : b.config.indentUnit = .ok (List.replicate width (wording " ")).flatten :=
    repeated_of_small whole small (by simpa [wording, Text.ofString] using small)
  have length : (List.replicate width (wording " ")).flatten.length = width := by
    simp [wording, Text.ofString]
  have fits : n * width < memoryLimit := Nat.lt_of_le_of_lt (Nat.mul_le_mul_right width shallow) narrow
  have indent := @repeated_of_small (List.replicate width (wording " ")).flatten n (.ofInt n) rfl
    (Nat.lt_of_le_of_lt shallow few) (by rwa [length])
  rw [segmentRows, stated]
  refine ⟨Layout.rows (List.replicate n (List.replicate width (wording " ")).flatten).flatten t, ?_⟩
  simp only [bind, Except.bind, unit, indent]
  rfl

theorem flush_written {pending : Option (Nat × Text)} (shallow : ∀ q ∈ pending, q.1 ≤ depth) :
    ∃ rs, b.flush st pending = .ok rs := by
  cases pending with
  | none => exact ⟨[], rfl⟩
  | some q =>
    obtain ⟨n, t⟩ := q
    cases t with
    | nil => exact ⟨[], rfl⟩
    | cons c t => exact segmentRows_written whole small few narrow (shallow _ rfl) rfl

theorem rowsAfter_written {segments : List Segment}
    (stated : ∀ s ∈ segments, ∃ n ≤ depth, ∃ t, b.statement st s = .ok (.ofInt (n : Nat), .ok t))
    {pending : Option (Nat × Text)} (shallow : ∀ q ∈ pending, q.1 ≤ depth) :
    ∃ rs, b.rowsAfter st pending segments = .ok rs := by
  induction segments generalizing pending with
  | nil => exact flush_written whole small few narrow shallow
  | cons s segments ih =>
    obtain ⟨⟨n, top, t, here⟩, later⟩ := List.forall_mem_cons.mp stated
    obtain ⟨before, flushed⟩ := @flush_written b width st whole small depth few narrow pending shallow
    by_cases literal : ∃ m u, s = .literal m u
    · obtain ⟨m, u, rfl⟩ := literal
      have inside : m ≤ depth := by
        have same := congrArg Prod.fst (Except.ok.inj here)
        simp [Value.ofInt] at same
        omega
      cases pending with
      | none =>
        rw [rowsAfter]
        exact ih later fun q same => by cases same; exact inside
      | some q =>
        obtain ⟨n, v⟩ := q
        rw [rowsAfter]
        split
        · exact ih later fun q same => by cases same; exact inside
        · obtain ⟨rest, written⟩ := @ih later (some (m, u)) fun q same => by cases same; exact inside
          rw [flushed, written]
          exact ⟨before ++ rest, rfl⟩
    · have other : ∀ m u, s ≠ .literal m u := fun m u same => literal ⟨m, u, same⟩
      obtain ⟨rows, written⟩ := segmentRows_written whole small few narrow top here
      obtain ⟨rest, behind⟩ := @ih later none fun _ same => by cases same
      rw [rowsAfter_other _ other, flushed, written, behind]
      exact ⟨before ++ rows ++ rest, rfl⟩

end

theorem statement_piece {dataName : Text} (writer : b.writer = .ofName dataName) {p : Piece}
    (source : p.HasSource st dataName) (n : Nat) :
    ∃ t, b.statement st (p.segment n) = .ok (.ofInt (n : Nat), .ok t) := by
  cases p with
  | expression d =>
    obtain ⟨t, written⟩ := source
    have stated : b.writer.expression st d = .ok t := by rw [writer]; exact written
    rw [Piece.segment, statement, stated]
    exact ⟨_, rfl⟩
  | data =>
    rw [Piece.segment, statement, writer]
    exact ⟨_, rfl⟩
  | _ => exact ⟨_, rfl⟩

theorem source_written {c : Config} (whole : c.indentWidth.asInt? = some (width : Int)) (small : width < memoryLimit)
    {body : List Piece} (sources : ∀ p ∈ body, p.HasSource st c.dataName) :
    ∃ source, (ofBody c body).source st = .ok source := by
  have stated : ∀ s ∈ (ofBody c body).segments, ∃ n ≤ 1, ∃ t,
      (ofBody c body).statement st s = .ok (.ofInt (n : Nat), .ok t) := by
    rw [segments_ofBody]
    simp only [List.forall_mem_cons, List.forall_mem_append, List.forall_mem_map]
    refine ⟨⟨0, by omega, _, rfl⟩, ⟨1, by omega, _, rfl⟩, ⟨1, by omega, _, rfl⟩, fun p member => ?_,
      ⟨1, by omega, _, rfl⟩, List.forall_mem_nil _⟩
    exact ⟨1, by omega, statement_piece (ofBody_writer c body) (sources p member) 1⟩
  obtain ⟨rs, written⟩ := @rowsAfter_written (ofBody c body) width st (by rwa [ofBody_config]) small 1 (by decide)
    (by rwa [Nat.one_mul]) _ stated none fun _ same => by cases same
  rw [source, rows, written]
  exact ⟨_, rfl⟩

/-- The segments of steps go no deeper than there are steps. -/
theorem portions_stated {dataName : Text} (writer : b.writer = .ofName dataName) {steps : List Step}
    (sources : ∀ p, .piece p ∈ steps → p.HasSource st dataName) (c : Config) (n : Nat) :
    ∀ s ∈ (Step.portionsOf n steps).flatMap (Portion.segments c), ∃ m ≤ n + steps.length, ∃ t,
      b.statement st s = .ok (.ofInt (m : Nat), .ok t) := by
  induction steps generalizing n with
  | nil => exact List.forall_mem_nil _
  | cons s steps ih =>
    have behind := ih (fun p member => sources p (List.mem_cons_of_mem s member)) (s.depthBehind n)
    have further : s.depthBehind n ≤ n + 1 := by cases s <;> simp only [Step.depthBehind] <;> omega
    rw [Step.portionsOf, List.flatMap_append, List.length_cons]
    refine List.forall_mem_append.mpr ⟨?_, fun r member => ?_⟩
    · cases s with
      | indent | dedent => exact List.forall_mem_nil _
      | piece p =>
        exact List.forall_mem_singleton.mpr ⟨n, by omega, statement_piece writer (sources p List.mem_cons_self) n⟩
      | finish => exact List.forall_mem_singleton.mpr ⟨n, by omega, _, rfl⟩
      | start =>
        refine List.forall_mem_cons.mpr ⟨⟨n, by omega, _, rfl⟩, List.forall_mem_cons.mpr ⟨⟨n + 1, by omega, _, rfl⟩, ?_⟩⟩
        exact List.forall_mem_singleton.mpr ⟨n + 1, by omega, _, rfl⟩
    · obtain ⟨m, below, stated⟩ := behind r member
      exact ⟨m, by omega, stated⟩

theorem performed_written {c : Config} (whole : c.indentWidth.asInt? = some (width : Int)) (small : width < memoryLimit)
    {steps : List Step} (performed : (ofConfig c).performAll steps = .ok b)
    (sources : ∀ p, .piece p ∈ steps → p.HasSource st c.dataName) (few : steps.length < memoryLimit)
    (narrow : steps.length * width < memoryLimit) : ∃ source, b.source st = .ok source := by
  obtain ⟨segments, config, writer, _⟩ := performAll_ok performed
  have stated := @portions_stated b st c.dataName writer steps sources c 0
  rw [Nat.zero_add] at stated
  have whole : b.config.indentWidth.asInt? = some (width : Int) := by
    rw [config]
    exact whole
  obtain ⟨rs, written⟩ := @rowsAfter_written b width st whole small steps.length few narrow _ stated none fun _ same => by cases same
  have own : b.segments = (Step.portionsOf 0 steps).flatMap (Portion.segments c) := segments
  rw [source, rows, own, written]
  exact ⟨_, rfl⟩

end Buffer

end RenderSource
