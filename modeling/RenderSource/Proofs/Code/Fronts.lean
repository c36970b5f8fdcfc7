import RenderSource.Proofs.Code.Spelling
import RenderSource.Proofs.Number.FloatReading
/-!
Where expressions begin and end. An emitted expression begins with a mark or a name that the reader
takes for nothing else, and ends in front of a mark that no expression goes on with.
-/
namespace RenderSource

namespace Term

def closers : List Char := [',', ')', ']', '\x7d', ':']

def Stops (rest : Text) : Prop := ∀ c ∈ rest.head?, ∃ m ∈ closers, c = .scalar m

def EndsName (rest : Text) : Prop := ∀ c ∈ rest.head?, c.continuesName = false

theorem stops_cons {m : Char} (member : m ∈ closers) (t : Text) : Stops (.scalar m :: t) := by
  intro c head
  cases head
  exact ⟨m, member, rfl⟩

theorem stops_nil : Stops [] := by
  intro c head
  cases head

theorem forall_closers {P : Char → Prop}
    (each : P ',' ∧ P ')' ∧ P ']' ∧ P '\x7d' ∧ P ':') : ∀ m ∈ closers, P m := by
  intro m member
  simp only [closers, List.mem_cons, List.not_mem_nil, or_false] at member
  rcases member with rfl | rfl | rfl | rfl | rfl
  · exact each.1
  · exact each.2.1
  · exact each.2.2.1
  · exact each.2.2.2.1
  · exact each.2.2.2.2

theorem closers_continue : ∀ m ∈ closers, (CodePoint.scalar m).continuesName = false :=
  forall_closers (by decide)

theorem closers_figure : ∀ m ∈ closers, Decimal.digitValue? (.scalar m) = Option.none ∧ m ≠ '.' ∧
    m ≠ 'e' :=
  forall_closers (by decide)

theorem Stops.name {rest : Text} (stops : Stops rest) : EndsName rest := by
  intro c head
  obtain ⟨m, member, rfl⟩ := stops c head
  exact closers_continue m member

theorem Stops.number {rest : Text} (stops : Stops rest) : EndsNumber rest := by
  intro c head
  obtain ⟨m, member, rfl⟩ := stops c head
  obtain ⟨figure, point, exponent⟩ := closers_figure m member
  exact ⟨figure, by simpa using point, by simpa using exponent⟩

theorem skipBlanks_cons {c : CodePoint} (other : c ≠ .scalar ' ') (t : Text) :
    skipBlanks (c :: t) = c :: t := by
  simp [skipBlanks, other]

theorem skipBlanks_blank (t : Text) : skipBlanks (.scalar ' ' :: t) = skipBlanks t := by
  simp [skipBlanks]

theorem skipBlanks_blanks (k : Nat) (t : Text) : skipBlanks (Text.blanks k ++ t) = skipBlanks t := by
  induction k with
  | zero => rfl
  | succ k ih =>
    rw [Text.blanks, List.replicate_succ, List.cons_append, skipBlanks_blank]
    exact ih

theorem Stops.skip {rest : Text} (stops : Stops rest) : skipBlanks rest = rest := by
  cases rest with
  | nil => rfl
  | cons c t =>
    apply skipBlanks_cons
    obtain ⟨m, member, rfl⟩ := stops c rfl
    intro same
    cases same
    exact absurd member (by decide)

theorem readMark_cons {m : Char} (other : m ≠ ' ') (t : Text) :
    readMark m (.scalar m :: t) = .ok ((), t) := by
  unfold readMark
  rw [skipBlanks_cons (by simpa using other)]
  simp

theorem nextIs_cons {m : Char} {c : CodePoint} (other : c ≠ .scalar ' ') (t : Text) :
    nextIs m (c :: t) = decide (c = .scalar m) := by
  unfold nextIs
  rw [skipBlanks_cons other]
  simp

theorem spanName_append {n u : Text} (identifier : n.isIdentifier = true) (ends : EndsName u) :
    spanName (n ++ u) = (n, u) := by
  have whole := Text.continuesName_of_isIdentifier identifier
  obtain ⟨c, n, rfl, starts, _⟩ := Text.exists_cons_of_isIdentifier identifier
  rw [List.cons_append, spanName, if_pos starts, List.span_eq_takeWhile_dropWhile,
    ← List.cons_append, List.takeWhile_append_of_pos whole, List.dropWhile_append_of_pos whole]
  cases u with
  | nil => simp
  | cons d u => simp [ends d rfl]

theorem readParts_stops {rest : Text} (stops : Stops rest) (fuel : Nat) (t : Term) :
    readParts fuel t rest = .ok (t, rest) := by
  cases fuel with
  | zero => rfl
  | succ fuel =>
    unfold readParts
    split
    · obtain ⟨m, member, same⟩ := stops _ rfl
      cases same
      exact absurd member (by decide)
    · obtain ⟨m, member, same⟩ := stops _ rfl
      cases same
      exact absurd member (by decide)
    · obtain ⟨m, member, same⟩ := stops _ rfl
      cases same
      exact absurd member (by decide)
    · rfl

theorem readSum_stops {rest : Text} (stops : Stops rest) (fuel : Nat) (t : Term) :
    readSum fuel t rest = .ok (t, rest) := by
  cases fuel with
  | zero => rfl
  | succ fuel =>
    unfold readSum
    rw [stops.skip]
    split
    · obtain ⟨m, member, same⟩ := stops _ rfl
      cases same
      exact absurd member (by decide)
    · rfl

theorem closers_start : ∀ m ∈ closers, (CodePoint.scalar m).startsName = false :=
  forall_closers (by decide)

theorem startsName_large {c : CodePoint} (starts : c.startsName = true) : 0x41 ≤ c.val := by
  by_contra small
  have first : c.startsName = false := by
    unfold CodePoint.startsName identifierStartRanges Ranges.has
    rw [if_pos (by omega)]
  rw [first] at starts
  cases starts

theorem isDigit_startsName {c : CodePoint} (starts : c.startsName = true) : c.isDigit = false := by
  have large := startsName_large starts
  simp only [CodePoint.isDigit, decide_eq_false_iff_not]
  omega

theorem startsName_ne {c : CodePoint} (starts : c.startsName = true) {m : Char}
    (mark : (CodePoint.scalar m).startsName = false) : c ≠ .scalar m := by
  rintro rfl
  rw [mark] at starts
  cases starts

theorem skipBlanks_word {w : Text} (identifier : w.isIdentifier = true) (u : Text) :
    skipBlanks (w ++ u) = w ++ u := by
  obtain ⟨c, w, rfl, starts, _⟩ := Text.exists_cons_of_isIdentifier identifier
  exact skipBlanks_cons (startsName_ne starts (by decide)) _

/-- The front of an expression that is expected: no blank, no word that means something else, no name
of an argument, and no mark that ends expressions. -/
structure Fresh (s : Text) : Prop where
  unblanked : skipBlanks s = s
  undenied : (spanName s).1 ≠ wording "not"
  unawaited : (spanName s).1 ≠ wording "await"
  unnamed : (spanName s).2.head? ≠ some (.scalar '=')
  uneven : s.head? ≠ some (.scalar '=')
  opens : ∀ m ∈ closers, s.head? ≠ some (.scalar m)

theorem fresh_mark {c : CodePoint} (mark : c.startsName = false) (unblank : c ≠ .scalar ' ')
    (uneven : c ≠ .scalar '=') (opens : ∀ m ∈ closers, c ≠ .scalar m) (s : Text) : Fresh (c :: s) := by
  have front : spanName (c :: s) = ([], c :: s) := by simp [spanName, mark]
  refine ⟨skipBlanks_cons unblank s, ?_, ?_, ?_, ?_, ?_⟩
  · rw [front]; exact (by decide : ([] : Text) ≠ wording "not")
  · rw [front]; exact (by decide : ([] : Text) ≠ wording "await")
  · rw [front]; simpa using uneven
  · simpa using uneven
  · intro m member
    simpa using opens m member

theorem fresh_word {w u : Text} (identifier : w.isIdentifier = true) (undenied : w ≠ wording "not")
    (unawaited : w ≠ wording "await") (ends : EndsName u) (uneven : u.head? ≠ some (.scalar '=')) :
    Fresh (w ++ u) := by
  have front := spanName_append identifier ends
  refine ⟨skipBlanks_word identifier u, ?_, ?_, ?_, ?_, ?_⟩
  · rw [front]; exact undenied
  · rw [front]; exact unawaited
  · rw [front]; exact uneven
  · exact Text.head?_ne_of_isIdentifier identifier (by decide) u
  · intro m member
    exact Text.head?_ne_of_isIdentifier identifier (closers_start m member) u

def EndsPlain (u : Text) : Prop :=
  ∀ c ∈ u.head?, c.continuesName = false ∧ c ≠ .scalar '='

theorem endsPlain_cons {m : Char} (ends : (CodePoint.scalar m).continuesName = false)
    (uneven : m ≠ '=') (t : Text) : EndsPlain (.scalar m :: t) := by
  intro c head
  cases head
  exact ⟨ends, by simpa using uneven⟩

theorem EndsPlain.append {u v : Text} (ends : EndsPlain u) (ends' : EndsPlain v) :
    EndsPlain (u ++ v) := by
  cases u with
  | nil => exact ends'
  | cons c u => exact ends

theorem EndsPlain.name {u : Text} (ends : EndsPlain u) : EndsName u := fun c head => (ends c head).1

theorem EndsPlain.uneven {u : Text} (ends : EndsPlain u) : u.head? ≠ some (.scalar '=') :=
  fun same => (ends _ same).2 rfl

theorem Stops.plain {rest : Text} (stops : Stops rest) : EndsPlain rest := by
  intro c head
  refine ⟨stops.name c head, ?_⟩
  obtain ⟨m, member, rfl⟩ := stops c head
  intro same
  cases same
  exact absurd member (by decide)

theorem Emitted.path_front {t : Term} (emitted : Emitted .path t) : ∃ n u, Text.IsName n ∧
    spelled t = n ++ u ∧ EndsPlain u := by
  generalize rank : Rank.path = r at emitted
  induction emitted with
  | name fit => exact ⟨_, [], fit, (List.append_nil _).symm, fun c head => by cases head⟩
  | @attr t a base fit ih =>
    obtain ⟨n, u, named, front, ends⟩ := ih rank
    refine ⟨n, u ++ (wording "." ++ a), named, by simp [spelled, front], ends.append ?_⟩
    exact endsPlain_cons (by decide) (by decide) _
  | @item t key base inner ih =>
    obtain ⟨n, u, named, front, ends⟩ := ih rank
    refine ⟨n, u ++ (wording "[" ++ (spelled key ++ wording "]")), named, by simp [spelled, front],
      ends.append ?_⟩
    exact endsPlain_cons (by decide) (by decide) _
  | @call f args nameds base fits inner innerNamed ih =>
    obtain ⟨n, u, named, front, ends⟩ := ih rank
    refine ⟨n, u ++ (wording "(" ++ (Text.joinWith (wording ", ")
      (spelledAll args ++ spelledNamed nameds) ++ wording ")")), named, by simp [spelled, front],
      ends.append ?_⟩
    exact endsPlain_cons (by decide) (by decide) _
  | _ => cases rank

theorem Emitted.path_length {t : Term} (emitted : Emitted .path t) : 0 < (spelled t).length := by
  obtain ⟨n, u, fit, front, _⟩ := emitted.path_front
  rw [front, List.length_append]
  exact Nat.add_pos_left (Text.length_of_isIdentifier fit.1) _

theorem figure_front : ∀ d, d < 10 → (Decimal.digitText d).startsName = false ∧
    Decimal.digitText d ≠ .scalar ' ' ∧ Decimal.digitText d ≠ .scalar '=' := by decide

theorem figure_opens {d : Nat} (small : d < 10) :
    ∀ m ∈ closers, Decimal.digitText d ≠ .scalar m := by
  refine forall_closers ?_
  revert d
  decide

theorem fresh_figure {d : Nat} (small : d < 10) (s : Text) : Fresh (Decimal.digitText d :: s) := by
  obtain ⟨mark, unblank, uneven⟩ := figure_front d small
  exact fresh_mark mark unblank uneven (figure_opens small) s

theorem fresh_opener {m : Char} (opener : m = '"' ∨ m = '-' ∨ m = '[' ∨ m = '\x7b') (s : Text) :
    Fresh (.scalar m :: s) := by
  rcases opener with rfl | rfl | rfl | rfl
  all_goals exact fresh_mark (by decide) (by decide) (by decide) (forall_closers (by decide)) s

theorem fresh_path {t : Term} (emitted : Emitted .path t) {rest : Text} (ends : EndsPlain rest) :
    Fresh (spelled t ++ rest) := by
  obtain ⟨n, u, fit, front, ends'⟩ := emitted.path_front
  have after := ends'.append ends
  rw [front, List.append_assoc]
  exact fresh_word fit.1 (fit.not_reserved (by decide)) (fit.not_reserved (by decide)) after.name
    after.uneven

theorem Emitted.fresh {t : Term} (emitted : Emitted .whole t) {rest : Text} (ends : EndsPlain rest) :
    Fresh (spelled t ++ rest) := by
  cases emitted with
  | path path => exact fresh_path path ends
  | text t => exact fresh_opener (m := '"') (by simp) _
  | nat n =>
    obtain ⟨f, fs, parts⟩ := List.exists_cons_of_ne_nil (Decimal.digits_ne_nil 10 n)
    have small := Decimal.digits_lt (by omega : 2 ≤ 10) n f (by simp [parts])
    rw [spelled, Decimal.ofNat, parts]
    exact fresh_figure small _
  | @float x plain finite =>
    obtain ⟨f, small, more, front⟩ := FloatLayout.text_front plain finite
    rw [spelled, front]
    exact fresh_figure small _
  | truth b =>
    cases b
    · exact fresh_word (w := wording "False") (by decide) (by decide) (by decide) ends.name ends.uneven
    · exact fresh_word (w := wording "True") (by decide) (by decide) (by decide) ends.name ends.uneven
  | none => exact fresh_word (w := wording "None") (by decide) (by decide) (by decide) ends.name ends.uneven
  | negativeNat n => exact fresh_opener (m := '-') (by simp) _
  | negativeFloat plain finite => exact fresh_opener (m := '-') (by simp) _
  | list inner => exact fresh_opener (m := '[') (by simp) _
  | dict keys inner => exact fresh_opener (m := '\x7b') (by simp) _
  | @sum a b first second =>
    rw [spelled, List.append_assoc, List.append_assoc]
    exact fresh_path first (endsPlain_cons (by decide) (by decide) _)

end Term

end RenderSource
