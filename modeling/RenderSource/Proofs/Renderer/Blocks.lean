import RenderSource.Proofs.Renderer.Outline
/-!
Portions in blocks. The blocks around a statement are those of all depths down to its own, so a statement may
stand at any depth down to one below a head, and at any depth down to its own below another statement. What
reads in the rows of portions is told by their outline.
-/
namespace RenderSource

namespace Entry

def deepRow : Nat := 43

/-- The first statement that stands too deep below the ones before it, where `opened` is the depth that they
leave open, or the first head whose library has too many blocks. -/
def fault? (width : Nat) : Nat → List Entry → Option SourceFault
  | _, [] => none
  | opened, e :: es =>
    if opened < e.depth then some ⟨.unexpectedIndent, e.row, (e.depth * width : Nat) - 1⟩
    else if e.opens ∧ Step.startLimit ≤ e.depth then some ⟨.deepBlocks, e.row + deepRow, 0⟩
    else fault? width (if e.opens then e.depth + 1 else e.depth) es

end Entry

namespace Placed

def stack (width : Nat) : Nat → List Nat
  | 0 => [0]
  | n + 1 => (n + 1) * width :: stack width n

section

variable {width n m row : Nat}

theorem stack_length : (stack width n).length = n + 1 := by
  induction n with
  | zero => rfl
  | succ n ih => rw [stack, List.length_cons, ih]

theorem stack_top : (stack width n).headD 0 = n * width := by
  cases n with
  | zero => exact (Nat.zero_mul width).symm
  | succ n => rfl

theorem mem_stack (within : m ≤ n) : m * width ∈ stack width n := by
  induction n with
  | zero =>
    obtain rfl : m = 0 := Nat.le_zero.mp within
    simp [stack]
  | succ n ih =>
    by_cases same : m = n + 1
    · rw [same, stack]
      exact List.mem_cons_self
    · exact List.mem_cons_of_mem _ (ih (by omega))

theorem stack_back (positive : 1 ≤ width) (within : m ≤ n) :
    (stack width n).dropWhile (fun c => decide (m * width < c)) = stack width m := by
  induction n with
  | zero =>
    obtain rfl : m = 0 := Nat.le_zero.mp within
    simp [stack]
  | succ n ih =>
    by_cases same : m = n + 1
    · rw [same, stack, List.dropWhile_cons_of_neg (by simp)]
    · have deeper : m * width < (n + 1) * width := Nat.mul_lt_mul_of_pos_right (by omega) positive
      rw [stack, List.dropWhile_cons_of_pos (by simpa using deeper)]
      exact ih (by omega)

theorem blocks_back (positive : 1 ≤ width) (within : m ≤ n) :
    blocks? row (m * width) (stack width n) false = .ok (stack width m) := by
  have shallow : ¬n * width < m * width := Nat.not_lt.mpr (Nat.mul_le_mul_right width within)
  rw [blocks?, stack_top]
  simp [shallow, mem_stack within, stack_back positive within]

theorem blocks_deeper (positive : 1 ≤ width) (deeper : n < m) (room : n + 1 < blockLimit) :
    blocks? row (m * width) (stack width n) false = .error ⟨.unexpectedIndent, row, (m * width : Nat) - 1⟩ := by
  have beyond : n * width < m * width := Nat.mul_lt_mul_of_pos_right deeper positive
  have few : ¬blockLimit ≤ n + 1 := Nat.not_le.mpr room
  rw [blocks?, stack_top, stack_length]
  simp only [beyond, few, and_false, Bool.false_eq_true, ↓reduceIte]

theorem blocks_inside (positive : 1 ≤ width) (room : n + 1 < blockLimit) :
    blocks? row ((n + 1) * width) (stack width n) true = .ok (stack width (n + 1)) := by
  have beyond : n * width < (n + 1) * width := Nat.mul_lt_mul_of_pos_right (Nat.lt_succ_self n) positive
  have few : ¬blockLimit ≤ n + 1 := Nat.not_le.mpr room
  rw [blocks?, stack_top, stack_length]
  simp only [beyond, few, and_false, ↓reduceIte, stack]

end

def verdict (f : Option SourceFault) (ps : List Placed) : Except SourceFault (List Placed) :=
  match f with
  | some f => .error f
  | none => .ok ps

theorem verdict_map (f : Option SourceFault) (ps qs : List Placed) :
    (verdict f ps).map (qs ++ ·) = verdict f (qs ++ ps) := by
  cases f <;> rfl

end Placed

namespace Portion

open Placed (stack verdict verdict_map readRows)

variable {c : Config} {st : Store} {width count fuel row opened : Nat}

/-- A statement stands at any depth that is open, with the blocks of its own depth behind it, unless there is no
room for it. -/
theorem readRows_placed (positive : 1 ≤ width) (few : opened ≤ Step.startLimit) {s : Statement} (spells : s.Spells)
    (n : Nat) (rest : List Text) :
    readRows count (fuel + 1) row (stack width opened) false (statementRow width n s :: rest) =
        (if opened < n then .error ⟨.unexpectedIndent, row, (n * width : Nat) - 1⟩
        else (readRows count fuel (row + 1) (stack width n) (Placed.isDefine s) rest).map
          (placedAt width row n s :: ·)) ∨
      n ≤ opened ∧ (∃ f, readRows count (fuel + 1) row (stack width opened) false (statementRow width n s :: rest) =
        .error f ∧ Placed.Refuses row f) ∧ ¬s.Fits n := by
  have room : opened + 1 < Placed.blockLimit := Nat.lt_of_le_of_lt (Nat.succ_le_succ few) (by decide)
  rw [statementRow]
  by_cases deeper : opened < n
  · rw [if_pos deeper]
    exact .inl (Placed.readRows_misplaced spells (Placed.blocks_deeper positive deeper room) rest)
  · have blocks := @Placed.blocks_back width opened n row positive (Nat.not_lt.mp deeper)
    have read := @Placed.readRows_statement count fuel row (n * width) (stack width opened) (stack width n) false s spells
      blocks rest
    rw [Placed.stack_length, Nat.add_sub_cancel] at read
    rw [if_neg deeper]
    exact read.imp id fun refused => ⟨Nat.not_lt.mp deeper, refused⟩

theorem readRows_at (positive : 1 ≤ width) (few : opened ≤ Step.startLimit) {s : Statement} (spells : s.Spells)
    (n : Nat) (fits : n ≤ opened → s.Fits n) (rest : List Text) :
    readRows count (fuel + 1) row (stack width opened) false (statementRow width n s :: rest) =
      if opened < n then .error ⟨.unexpectedIndent, row, (n * width : Nat) - 1⟩
      else (readRows count fuel (row + 1) (stack width n) (Placed.isDefine s) rest).map
        (placedAt width row n s :: ·) := by
  rcases @readRows_placed width count fuel row opened positive few s spells n rest with read | ⟨within, _, full⟩
  · exact read
  · exact absurd (fits within) full

theorem deepRow_head (n row : Nat) (few : n ≤ Step.startLimit) :
    Placed.deepRow? (row + 1) (n + 2) = if Step.startLimit ≤ n then some (row + Entry.deepRow) else none := by
  unfold Step.startLimit at *
  by_cases last : n = 95
  · subst last
    exact congrArg some (by simp only [Entry.deepRow]; omega)
  · have behind : Library.deeperRows[Placed.blockLimit - (n + 2)]? = none := by
      rw [List.getElem?_eq_none_iff]
      simp only [Library.deeperRows, Placed.blockLimit, List.length_cons, List.length_nil]
      omega
    rw [Placed.deepRow?, behind, if_neg (by omega)]
    rfl

theorem readRows_opening (accepted : c.Accepted) (positive : 1 ≤ width) (few : opened ≤ Step.startLimit) (n : Nat)
    (rest : List Text) :
    readRows count (fuel + 3) row (stack width opened) false ((opening n).rows c st width ++ rest) =
      if opened < n then .error ⟨.unexpectedIndent, row, (n * width : Nat) - 1⟩
      else if Step.startLimit ≤ n then .error ⟨.deepBlocks, row + Entry.deepRow, 0⟩
      else (readRows count fuel (row + ((opening n).rows c st width).length) (stack width (n + 1)) false rest).map
        ((opening n).placed c st width row ++ ·) := by
  have behind : row + ((opening n).rows c st width).length = row + 1 + (libraryRows c width (n + 1)).length + 1 := by
    simp only [rows, List.length_cons, List.length_append, List.length_nil]
    omega
  have below : ∀ {m}, m ≤ Step.startLimit → m < Placed.blockLimit := fun within => Nat.lt_of_le_of_lt within (by decide)
  rw [behind, rows, List.cons_append,
    readRows_at positive few accepted.spells_head n fun within => accepted.fits_head (below (Nat.le_trans within few))]
  by_cases deeper : opened < n
  · rw [if_pos deeper, if_pos deeper]
  · have within : n ≤ Step.startLimit := Nat.le_trans (Nat.not_lt.mp deeper) few
    have room : n + 1 < Placed.blockLimit := Nat.lt_of_le_of_lt (Nat.succ_le_succ within) (by decide)
    have library := @Placed.readRows_placed count (fuel + 1) (row + 1) ((n + 1) * width) (stack width n)
      (stack width (n + 1)) true (c.version.getD Library.placeholder) (Placed.blocks_inside positive room)
      (statementRow width (n + 1) (.assign c.accumulator (.text [])) :: rest)
    rw [Placed.stack_length, deepRow_head n row within] at library
    rw [if_neg deeper, if_neg deeper, List.append_assoc, List.singleton_append, libraryRows, Placed.isDefine, library]
    by_cases last : Step.startLimit ≤ n
    · rw [if_pos last, if_pos last]
      rfl
    · have inside : n + 1 ≤ Step.startLimit := Nat.not_le.mp last
      rw [if_neg last, if_neg last]
      dsimp only
      have flat : Placed.isDefine (.assign c.accumulator (.text [])) = false := rfl
      rw [readRows_at positive inside accepted.spells_init _ fun _ => accepted.fits_init (below inside),
        if_neg (Nat.lt_irrefl _), flat]
      generalize readRows count fuel _ (stack width (n + 1)) false rest = later
      cases later <;> rfl

theorem fault_opening (n : Nat) (es : List Entry) :
    Entry.fault? width opened (((opening n).placed c st width row).map Placed.entry ++ es) =
      if opened < n then some ⟨.unexpectedIndent, row, (n * width : Nat) - 1⟩
      else if Step.startLimit ≤ n then some ⟨.deepBlocks, row + Entry.deepRow, 0⟩
      else Entry.fault? width (n + 1) es := by
  simp only [placed, placedAt, libraryAt, Placed.entry, Placed.isDefine, List.map_cons, List.map_nil, List.cons_append,
    List.nil_append, Entry.fault?, true_and, Bool.false_eq_true, false_and, lt_irrefl, ↓reduceIte]

theorem fault_at {s : Statement} (flat : Placed.isDefine s = false) (n : Nat) (es : List Entry) :
    Entry.fault? width opened ((placedAt width row n s).entry :: es) =
      if opened < n then some ⟨.unexpectedIndent, row, (n * width : Nat) - 1⟩ else Entry.fault? width n es := by
  have entry : (placedAt width row n s).entry = ⟨row, n, false⟩ := by rw [Placed.entry, placedAt, flat]
  rw [entry, Entry.fault?]
  simp only [Bool.false_eq_true, false_and, ↓reduceIte]

/-- A portion whose expressions have source, and which gives back no value outside of functions. -/
structure Stated (c : Config) (st : Store) (q : Portion) : Prop where
  source : ∀ n p, q = .piece n p → p.HasSource st c.dataName
  calls : ∀ n p, q = .piece n p → p.CallsNames
  inside : ∀ n, q = .closing n → n ≠ 0

/-- There is room for the statement of a piece where it stands, if statements can stand as deep at all. -/
def HasRoom (c : Config) (st : Store) : Portion → Prop
  | piece n p => n ≤ Step.startLimit → (Statement.augment c.accumulator (p.term st c.dataName)).Fits n
  | _ => True

structure Reads (c : Config) (st : Store) (q : Portion) : Prop extends Stated c st q where
  room : q.HasRoom c st

theorem Stated.spells (accepted : c.Accepted) {n : Nat} {p : Piece} (stated : Stated c st (.piece n p)) :
    Statement.Spells (.augment c.accumulator (p.term st c.dataName)) :=
  .augment accepted.accumulator ((stated.source n p rfl).emitted accepted.dataName (stated.calls n p rfl))

theorem mem_placedFrom {ps : List Portion} {q : Placed} (member : q ∈ placedFrom c st width row ps) :
    ∃ p ∈ ps, ∃ r, q ∈ p.placed c st width r := by
  induction ps generalizing row with
  | nil => cases member
  | cons p ps ih =>
    rcases List.mem_append.mp member with here | later
    · exact ⟨p, List.mem_cons_self, row, here⟩
    · obtain ⟨p', inside, found⟩ := ih later
      exact ⟨p', List.mem_cons_of_mem p inside, found⟩

theorem Reads.fits (accepted : c.Accepted) {p : Portion} (reads : Reads c st p) {q : Placed}
    (member : q ∈ p.placed c st width row) (shallow : q.level ≤ Step.startLimit) : q.statement.Fits q.level := by
  have inside : q.level < Placed.blockLimit := Nat.lt_of_le_of_lt shallow (by decide)
  cases p with
  | opening n =>
    simp only [placed, List.mem_cons, List.not_mem_nil, or_false] at member
    rcases member with rfl | rfl | rfl
    · exact accepted.fits_head inside
    · exact ⟨Nat.zero_le _, Nat.zero_le _⟩
    · exact accepted.fits_init inside
  | piece n p =>
    obtain rfl := List.mem_singleton.mp member
    exact reads.room shallow
  | closing n =>
    obtain rfl := List.mem_singleton.mp member
    exact accepted.fits_end inside

/-- What is read where statements are expected: the statements, or the first fault of their outline, or what is said
of one of them for which there is no room. -/
def Told (width opened : Nat) (ps : List Placed) (r : Except SourceFault (List Placed)) : Prop :=
  r = verdict (Entry.fault? width opened (ps.map Placed.entry)) ps ∨
    ∃ q ∈ ps, q.level ≤ Step.startLimit ∧ (∃ f, r = .error f ∧ Placed.Refuses q.row f) ∧ ¬q.statement.Fits q.level

theorem Told.behind {n : Nat} {ps qs : List Placed} {r : Except SourceFault (List Placed)} (told : Told width n ps r)
    (fault : Entry.fault? width opened ((qs ++ ps).map Placed.entry) = Entry.fault? width n (ps.map Placed.entry)) :
    Told width opened (qs ++ ps) (r.map (qs ++ ·)) := by
  rcases told with rfl | ⟨q, member, shallow, ⟨f, rfl, refuses⟩, full⟩
  · rw [Told, fault]
    exact .inl (verdict_map _ _ _)
  · exact .inr ⟨q, List.mem_append_right qs member, shallow, ⟨f, rfl, refuses⟩, full⟩

theorem told_at (positive : 1 ≤ width) (few : opened ≤ Step.startLimit) {s : Statement} (spells : s.Spells)
    (flat : Placed.isDefine s = false) (n : Nat) {rest : List Text} {ps : List Placed}
    (behind : n ≤ opened → Told width n ps (readRows count fuel (row + 1) (stack width n) false rest)) :
    Told width opened (placedAt width row n s :: ps)
      (readRows count (fuel + 1) row (stack width opened) false (statementRow width n s :: rest)) := by
  rcases @readRows_placed width count fuel row opened positive few s spells n rest with
    read | ⟨within, refused⟩
  · rw [read, flat]
    by_cases deeper : opened < n
    · rw [if_pos deeper, Told, List.map_cons, fault_at flat, if_pos deeper]
      exact .inl rfl
    · rw [if_neg deeper]
      refine @Told.behind width opened n ps [placedAt width row n s] _ (behind (Nat.not_lt.mp deeper)) ?_
      rw [List.singleton_append, List.map_cons, fault_at flat, if_neg deeper]
  · exact .inr ⟨_, List.mem_cons_self, Nat.le_trans within few, refused⟩

/-- Rows of portions read as the portions' statements, or with the first fault of their outline, or with what is
said of a statement for which there is no room. -/
theorem told_portions (accepted : c.Accepted) (positive : 1 ≤ width) {ps : List Portion}
    (each : ∀ p ∈ ps, Stated c st p) (few : opened ≤ Step.startLimit)
    (enough : (ps.flatMap (rows c st width)).length ≤ fuel) :
    Told width opened (placedFrom c st width row ps)
      (readRows count fuel row (stack width opened) false (ps.flatMap (rows c st width))) := by
  -- the open depth is general: a portion leaves its own, or one more behind a start, to the next
  induction ps generalizing fuel row opened with
  | nil => cases fuel <;> exact .inl rfl
  | cons p ps ih =>
    obtain ⟨here, later⟩ := List.forall_mem_cons.mp each
    rw [List.flatMap_cons, List.length_append] at enough
    cases p with
    | opening n =>
      obtain ⟨others, first⟩ := Library.placedRows_head (Text.blanks ((n + 1) * width)) (c.version.getD Library.placeholder)
      -- the library is more than one row, but it is read at once: three statements take three steps
      have three : 3 ≤ ((opening n).rows c st width).length := by
        simp only [rows, libraryRows, first, List.length_cons, List.length_append, List.length_nil]
        omega
      obtain ⟨fuel, rfl⟩ : ∃ m, fuel = m + 3 := ⟨fuel - 3, by omega⟩
      have fault := @fault_opening c st width row opened n ((placedFrom c st width (row + ((opening n).rows c st width).length)
        ps).map Placed.entry)
      rw [List.flatMap_cons, readRows_opening accepted positive few, placedFrom]
      by_cases deeper : opened < n
      · rw [if_pos deeper] at fault ⊢
        rw [Told, List.map_append, fault]
        exact .inl rfl
      · rw [if_neg deeper] at fault ⊢
        by_cases last : Step.startLimit ≤ n
        · rw [if_pos last] at fault ⊢
          rw [Told, List.map_append, fault]
          exact .inl rfl
        · rw [if_neg last] at fault ⊢
          refine (ih later (Nat.not_le.mp last) (by omega)).behind ?_
          rw [List.map_append, fault]
    | piece n p =>
      obtain ⟨fuel, rfl⟩ : ∃ m, fuel = m + 1 := ⟨fuel - 1, by simp only [rows, List.length_singleton] at enough; omega⟩
      refine told_at positive few (here.spells accepted) rfl n fun within => ?_
      exact ih later (Nat.le_trans within few) (by simp only [rows, List.length_singleton] at enough; omega)
    | closing n =>
      obtain ⟨fuel, rfl⟩ : ∃ m, fuel = m + 1 := ⟨fuel - 1, by simp only [rows, List.length_singleton] at enough; omega⟩
      refine told_at positive few accepted.spells_end rfl n fun within => ?_
      exact ih later (Nat.le_trans within few) (by simp only [rows, List.length_singleton] at enough; omega)

theorem readRows_portions (accepted : c.Accepted) (positive : 1 ≤ width) {ps : List Portion}
    (each : ∀ p ∈ ps, Reads c st p) (few : opened ≤ Step.startLimit)
    (enough : (ps.flatMap (rows c st width)).length ≤ fuel) :
    readRows count fuel row (stack width opened) false (ps.flatMap (rows c st width)) =
      verdict (Entry.fault? width opened ((placedFrom c st width row ps).map Placed.entry))
        (placedFrom c st width row ps) := by
  rcases @told_portions c st width count fuel row opened accepted positive ps (fun p member => (each p member).toStated) few
    enough with told | ⟨q, member, shallow, _, full⟩
  · exact told
  · obtain ⟨p, inside, r, found⟩ := mem_placedFrom member
    exact absurd ((each p inside).fits accepted found shallow) full

end Portion

end RenderSource
