import RenderSource.Proofs.Renderer.Statements
import RenderSource.Renderer.Load
/-!
The source of a renderer read back: its statements stand where they were put, unless there is no room for one
of them.
-/
namespace RenderSource

namespace Placed

theorem unified_of_fit {t : Text} (fit : ∀ c ∈ t, c = newline ∨ c.isUnfit = false) : unified t = t := by
  induction t with
  | nil => rfl
  | cons c t ih =>
    obtain ⟨here, later⟩ := List.forall_mem_cons.mp fit
    have other : c ≠ .scalar '\r' := by
      rintro rfl
      rcases here with same | fits
      · exact absurd same (by decide)
      · exact absurd fits (by decide)
    rw [unified]
    · rw [if_neg other, ih later]
    · rintro t rfl
      exact absurd rfl other

def placedFrom (row k : Nat) : List Statement → List Placed
  | [] => []
  | s :: ss => ⟨row, 1, k, Text.blanks k ++ s.spelled, s⟩ :: placedFrom (row + 1) k ss

def IsBody (ss : List Statement) : Prop := ∀ s ∈ ss, s.Spells ∧ isDefine s = false

theorem blocks_same (row k : Nat) : blocks? row k [k, 0] false = .ok [k, 0] := by simp [blocks?]

theorem readRows_body {ss : List Statement} (body : IsBody ss) {count fuel row k : Nat}
    (enough : ss.length ≤ fuel) :
    readRows count fuel row [k, 0] false (ss.map fun s => Text.blanks k ++ s.spelled) = .ok (placedFrom row k ss) ∨
      (∃ f, readRows count fuel row [k, 0] false (ss.map fun s => Text.blanks k ++ s.spelled) = .error f) ∧
        ∃ s ∈ ss, ¬s.Fits 1 := by
  induction ss generalizing fuel row with
  | nil =>
    left
    cases fuel <;> rfl
  | cons s ss ih =>
    obtain ⟨⟨spells, flat⟩, later⟩ := List.forall_mem_cons.mp body
    obtain ⟨fuel, rfl⟩ : ∃ m, fuel = m + 1 := ⟨fuel - 1, by simp at enough; omega⟩
    rw [List.map_cons]
    rcases readRows_statement spells (blocks_same row k) (ss.map fun s => Text.blanks k ++ s.spelled) with
      read | ⟨⟨f, broken, _⟩, full⟩
    · rw [read, flat]
      rcases ih later (by simpa using enough) with rest | ⟨⟨f, broken⟩, t, member, full⟩
      · rw [rest]
        exact .inl rfl
      · rw [broken]
        exact .inr ⟨⟨f, rfl⟩, t, List.mem_cons_of_mem s member, full⟩
    · exact .inr ⟨⟨f, broken⟩, s, by simp, full⟩

section

variable (c : Config) (k : Nat)

def head : Placed :=
  ⟨1, 0, 0, (Statement.define c.functionName c.dataName).spelled, .define c.functionName c.dataName⟩

def library : Placed :=
  ⟨2, 1, k, Text.blanks k ++ Library.firstRow, .library (c.version.getD Library.placeholder)⟩

def bodyRow : Nat := 2 + (Library.placedRows (Text.blanks k) (c.version.getD Library.placeholder)).length

/-- A renderer as its source reads: its head, the library and the statements of its body. -/
def renderer (ss : List Statement) : List Placed := head c :: library c k :: placedFrom (bodyRow c k) k ss

end

end Placed

theorem Text.ofRows_fit {rs : List Text} (fit : ∀ r ∈ rs, r.Fit) :
    ∀ d ∈ ofRows rs, d = newline ∨ d.isUnfit = false := by
  intro d member
  rcases mem_ofRows member with ends | ⟨r, inside, within⟩
  · exact .inl ends
  · exact .inr (fit r inside d within)

theorem Placed.read_fit {rs : List Text} (fit : ∀ r ∈ rs, r.Fit) :
    ∃ count, rs.length ≤ count ∧ read (Text.ofRows rs) = readRows count count 1 [0] false rs := by
  cases rs with
  | nil => exact ⟨1, Nat.zero_le 1, rfl⟩
  | cons r rs =>
    have whole : unified (Text.ofRows (r :: rs)) = Text.ofRows (r :: rs) := unified_of_fit (Text.ofRows_fit fit)
    have rows : (Text.ofRows (r :: rs)).rows = r :: rs :=
      Text.rows_ofRows _ (List.cons_ne_nil r rs) fun t member => (fit t member).no_newline
    exact ⟨(r :: rs).length, Nat.le_refl _, by rw [read, whole, rows]⟩

theorem Library.placedRows_fit (k : Nat) (v : Text) : ∀ r ∈ placedRows (Text.blanks k) v, r.Fit := by
  intro r member
  rw [← rowsFrom_version] at member
  obtain ⟨s, inside, rfl | rfl | rfl⟩ := mem_rowsFrom member
  · exact versionRows_fit v r inside
  · exact List.forall_mem_nil _
  · exact Text.fit_append (Text.fit_blanks k) (versionRows_fit v s inside)

namespace Buffer

open Placed (IsBody)

variable {c : Config} {k : Nat} {ss : List Statement}

theorem renderRows_fit_of (accepted : c.Accepted) (fit : ∀ s ∈ ss, s.spelled.Fit) : ∀ r ∈ renderRows c k ss, r.Fit := by
  refine List.forall_mem_cons.mpr ⟨accepted.spells_head.fit, List.forall_mem_append.mpr ⟨Library.placedRows_fit k _, ?_⟩⟩
  exact List.forall_mem_map.mpr fun s member => Text.fit_append (Text.fit_blanks k) (fit s member)

theorem renderRows_fit (accepted : c.Accepted) (body : IsBody ss) : ∀ r ∈ renderRows c k ss, r.Fit :=
  renderRows_fit_of accepted fun s member => (body s member).1.fit

theorem ofRows_renderRows_fit (accepted : c.Accepted) (body : IsBody ss) :
    ∀ d ∈ Text.ofRows (renderRows c k ss), d = newline ∨ d.isUnfit = false :=
  Text.ofRows_fit (renderRows_fit accepted body)

theorem readRows_opened (accepted : c.Accepted) (indented : 1 ≤ k) (ss : List Statement) (count fuel : Nat) :
    Placed.readRows count (fuel + 2) 1 [0] false (renderRows c k ss) =
      (Placed.readRows count fuel (Placed.bodyRow c k) [k, 0] false (ss.map fun s => Text.blanks k ++ s.spelled)).map
        fun ps => Placed.head c :: Placed.library c k :: ps := by
  let version := c.version.getD Library.placeholder
  let rows := ss.map fun s => Text.blanks k ++ s.spelled
  have inside : Placed.blocks? 2 k [0] true = .ok [k, 0] := by
    have deeper : 0 < k := indented
    simp [Placed.blocks?, Placed.blockLimit, deeper]
  have opened : Placed.readRows count (fuel + 1 + 1) 1 [0] false (renderRows c k ss) =
      (Placed.readRows count (fuel + 1) 2 [0] true (Library.placedRows (Text.blanks k) version ++ rows)).map
        (Placed.head c :: ·) :=
    @Placed.readRows_fitting count (fuel + 1) 1 0 [0] [0] false _ accepted.spells_head rfl (accepted.fits_head (by decide))
      (Library.placedRows (Text.blanks k) version ++ rows)
  have library : Placed.readRows count (fuel + 1) 2 [0] true (Library.placedRows (Text.blanks k) version ++ rows) =
      (Placed.readRows count fuel (Placed.bodyRow c k) [k, 0] false rows).map (Placed.library c k :: ·) :=
    Placed.readRows_library version inside rfl rows
  rw [opened, library]
  cases Placed.readRows count fuel (Placed.bodyRow c k) [k, 0] false rows <;> rfl

theorem readRows_renderRows (accepted : c.Accepted) (indented : 1 ≤ k) (body : IsBody ss) {count fuel : Nat}
    (enough : ss.length + 2 ≤ fuel) :
    Placed.readRows count fuel 1 [0] false (renderRows c k ss) = .ok (Placed.renderer c k ss) ∨
      (∃ f, Placed.readRows count fuel 1 [0] false (renderRows c k ss) = .error f) ∧
        ∃ s ∈ ss, ¬s.Fits 1 := by
  obtain ⟨m, rfl⟩ : ∃ m, fuel = m + 2 := ⟨fuel - 2, by omega⟩
  rw [readRows_opened accepted indented]
  rcases @Placed.readRows_body ss body count m (Placed.bodyRow c k) k
    (by omega) with read | ⟨⟨f, broken⟩, full⟩
  · left
    rw [read]
    rfl
  · right
    rw [broken]
    exact ⟨⟨f, rfl⟩, full⟩

theorem renderRows_length (c : Config) (k : Nat) (ss : List Statement) : ss.length + 2 ≤ (renderRows c k ss).length := by
  obtain ⟨others, first⟩ := Library.placedRows_head (Text.blanks k) (c.version.getD Library.placeholder)
  rw [renderRows, first]
  simp only [List.length_cons, List.length_append, List.length_map]
  omega

theorem read_ofRows (accepted : c.Accepted) (fit : ∀ s ∈ ss, s.spelled.Fit) :
    ∃ count, ss.length + 2 ≤ count ∧ Placed.read (Text.ofRows (renderRows c k ss)) =
      Placed.readRows count count 1 [0] false (renderRows c k ss) := by
  obtain ⟨count, enough, read⟩ := Placed.read_fit (renderRows_fit_of (k := k) accepted fit)
  exact ⟨count, Nat.le_trans (renderRows_length c k ss) enough, read⟩

theorem read_renderRows (accepted : c.Accepted) (indented : 1 ≤ k) (body : IsBody ss) :
    Placed.read (Text.ofRows (renderRows c k ss)) = .ok (Placed.renderer c k ss) ∨
      (∃ f, Placed.read (Text.ofRows (renderRows c k ss)) = .error f) ∧
        ∃ s ∈ ss, ¬s.Fits 1 := by
  obtain ⟨count, enough, read⟩ := @read_ofRows c k ss accepted fun s member => (body s member).1.fit
  rw [read]
  exact readRows_renderRows accepted indented body enough

/-- A body does not read if the row of its second statement does not, and what is said of the row is said of it. -/
theorem read_broken {P : SourceFault → Prop} (accepted : c.Accepted) (indented : 1 ≤ k) {first second : Statement} (spells : first.Spells)
    (fits : first.Fits 1) (flat : Placed.isDefine first = false)
    (fit : ∀ s ∈ first :: second :: ss, s.spelled.Fit)
    (filled : second.spelled ≠ []) (visible : second.spelled.head? ≠ some (.scalar ' '))
    (other : second.spelled ≠ Library.firstRow)
    (broken : ∀ count, ∃ f, Placed.readRow count (Placed.bodyRow c k + 1) 1 (Text.blanks k ++ second.spelled)
      second.spelled (ss.map fun s => Text.blanks k ++ s.spelled) = .error f ∧ P f) :
    ∃ f, Placed.read (Text.ofRows (renderRows c k (first :: second :: ss))) = .error f ∧ P f := by
  obtain ⟨count, enough, read⟩ := @read_ofRows c k (first :: second :: ss) accepted fit
  obtain ⟨n, rfl⟩ : ∃ n, count = n + 2 + 2 := ⟨count - 4, by simp only [List.length_cons] at enough; omega⟩
  obtain ⟨f, broken, holds⟩ := broken (n + 2 + 2)
  have row := @Placed.readRows_row (n + 2 + 2) n (Placed.bodyRow c k + 1) k [k, 0] [k, 0] false second.spelled filled
    visible other (Placed.blocks_same _ k) (ss.map fun s => Text.blanks k ++ s.spelled)
  rw [show [k, 0].length - 1 = 1 from rfl, broken] at row
  rw [read, readRows_opened accepted indented, List.map_cons, List.map_cons,
    Placed.readRows_fitting spells (Placed.blocks_same _ k) fits, flat, row]
  exact ⟨f, rfl, holds⟩

end Buffer

namespace Placed

variable {c : Config} {row k : Nat} {ss : List Statement}

theorem mem_placedFrom {p : Placed} (member : p ∈ placedFrom row k ss) : p.level = 1 ∧ p.statement ∈ ss := by
  induction ss generalizing row with
  | nil => cases member
  | cons s ss ih =>
    rcases List.mem_cons.mp member with rfl | later
    · exact ⟨rfl, by simp⟩
    · obtain ⟨level, inside⟩ := ih later
      exact ⟨level, List.mem_cons_of_mem s inside⟩

theorem termFault_none {p : Placed} {t : Term} (settled : ∀ u ∈ t.parts, u.Settled) : p.termFault? t = none := by
  rw [termFault?, List.findSome?_eq_none_iff]
  intro u member
  have here := settled u member
  cases u with
  | awaited left a => exact here.elim
  | yielded left a => exact here.elim
  | _ => rfl

theorem fixedFault_none {p : Placed} {n : Text} (free : n.normalName ≠ wording "__debug__") :
    p.fixedFault? n = none := by
  rw [fixedFault?, isFixed, if_neg (by simpa using free)]

theorem ownFault_none {p : Placed} (spells : p.statement.Spells)
    (inner : ∀ t, p.statement = .give t → p.level ≠ 0) (flat : isDefine p.statement = false) (free : ∀ n ∈ p.statement.names, n ≠ wording "__debug__") :
    p.ownFault? = none := by
  unfold ownFault?
  cases same : p.statement with
  | define n q =>
    rw [same] at flat
    cases flat
  | library v => rfl
  | assign n t =>
    rw [same] at spells free
    cases spells with
    | assign named value =>
      dsimp only
      rw [termFault_none value.settled, fixedFault_none (free _ (List.mem_singleton.mpr rfl))]
      rfl
  | augment n t =>
    rw [same] at spells free
    cases spells with
    | augment named value =>
      dsimp only
      rw [termFault_none value.settled, fixedFault_none (free _ (List.mem_singleton.mpr rfl))]
      rfl
  | give t =>
    rw [same] at spells
    cases spells with
    | give value =>
      dsimp only
      rw [termFault_none value.settled, if_neg (inner t same)]

theorem headFault_none {p : Placed} (flat : isDefine p.statement = false) : p.headFault? = none := by
  unfold headFault?
  cases same : p.statement with
  | define n q =>
    rw [same] at flat
    cases flat
  | _ => rfl

def IsSound (p : Placed) : Prop := p.ownFault? = none ∧ p.headFault? = none

theorem faultIn_none {opened ps : List Placed} (around : ∀ q ∈ opened, q.headFault? = none)
    (each : ∀ p ∈ ps, p.IsSound) : faultIn? opened ps = none := by
  induction ps generalizing opened with
  | nil => rw [faultIn?, List.findSome?_eq_none_iff.mpr around]
  | cons p ps ih =>
    obtain ⟨⟨own, head⟩, later⟩ := List.forall_mem_cons.mp each
    have closed : (opened.takeWhile fun q => decide (p.level ≤ q.level)).findSome? headFault? = none :=
      List.findSome?_eq_none_iff.mpr fun q member => around q ((List.takeWhile_sublist _).subset member)
    have left : ∀ q ∈ opened.dropWhile fun q => decide (p.level ≤ q.level), q.headFault? = none :=
      fun q member => around q ((List.dropWhile_sublist _).subset member)
    rw [faultIn?, List.span_eq_takeWhile_dropWhile]
    dsimp only
    rw [closed, own]
    split
    · exact ih (List.forall_mem_cons.mpr ⟨head, left⟩) later
    · exact ih left later

theorem misplaced_sound {ps : List Placed} (each : ∀ p ∈ ps, p.IsSound) : misplaced? ps = none :=
  faultIn_none nofun each

structure NamesFree (c : Config) : Prop where
  functionName : c.functionName.normalName ≠ wording "__debug__"
  dataName : c.dataName.normalName ≠ wording "__debug__"
  accumulator : c.accumulator.normalName ≠ wording "__debug__"

theorem misplaced_none (free : NamesFree c) (body : IsBody ss)
    (names : ∀ s ∈ ss, ∀ n ∈ s.names, n = c.accumulator.normalName) :
    misplaced? (renderer c k ss) = none := by
  have each : ∀ p ∈ placedFrom (bodyRow c k) k ss, p.IsSound := by
    intro p member
    obtain ⟨inner, inside⟩ := mem_placedFrom member
    obtain ⟨spells, flat⟩ := body _ inside
    refine ⟨ownFault_none spells (fun _ _ => by omega) flat fun n bound => ?_, headFault_none flat⟩
    rw [names _ inside n bound]
    exact free.accumulator
  have head : (head c).IsSound := ⟨fixedFault_none free.dataName, fixedFault_none free.functionName⟩
  have library : (library c k).IsSound := ⟨rfl, rfl⟩
  exact misplaced_sound (List.forall_mem_cons.mpr ⟨head, List.forall_mem_cons.mpr ⟨library, each⟩⟩)

end Placed

end RenderSource
