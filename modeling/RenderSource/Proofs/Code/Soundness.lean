import RenderSource.Proofs.Code.Displays
import RenderSource.Proofs.Code.Pieces
/-!
Emitted expressions are sound in the check of a row as long as they open no more brackets at once than
there may be; and if they open more, it is one of their brackets that is refused.
-/
namespace RenderSource

namespace Term

mutual

/-- How many brackets are open at once, at most, in the spelling of a term. -/
def nesting : Term → Nat
  | negative t | denial t | attr t _ | awaited _ t | yielded _ t => nesting t
  | list items | tuple items => 1 + nestingAll items
  | dict entries => 1 + nestingEntries entries
  | call f args named => max (nesting f) (1 + max (nestingAll args) (nestingNamed named))
  | item t key => max (nesting t) (1 + nesting key)
  | sum a b => max (nesting a) (nesting b)
  | name _ | text _ | nat _ | float _ | truth _ | none => 0

def nestingAll : List Term → Nat
  | [] => 0
  | t :: ts => max (nesting t) (nestingAll ts)

def nestingEntries : List (Term × Term) → Nat
  | [] => 0
  | (k, t) :: es => max (max (nesting k) (nesting t)) (nestingEntries es)

def nestingNamed : List (Text × Term) → Nat
  | [] => 0
  | (_, t) :: ts => max (nesting t) (nestingNamed ts)

end

theorem nesting_le_all {t : Term} {ts : List Term} (member : t ∈ ts) : t.nesting ≤ nestingAll ts := by
  induction ts with
  | nil => cases member
  | cons u ts ih =>
    rw [nestingAll]
    rcases List.mem_cons.mp member with rfl | later
    · omega
    · have := ih later
      omega

theorem nesting_le_entries {e : Term × Term} {es : List (Term × Term)} (member : e ∈ es) :
    e.1.nesting ≤ nestingEntries es ∧ e.2.nesting ≤ nestingEntries es := by
  induction es with
  | nil => cases member
  | cons f es ih =>
    rw [nestingEntries]
    rcases List.mem_cons.mp member with rfl | later
    · omega
    · have := ih later
      omega

theorem nesting_le_named {e : Text × Term} {es : List (Text × Term)} (member : e ∈ es) :
    e.2.nesting ≤ nestingNamed es := by
  induction es with
  | nil => cases member
  | cons f es ih =>
    rw [nestingNamed]
    rcases List.mem_cons.mp member with rfl | later
    · omega
    · have := ih later
      omega

end Term

namespace Broken

open Lexeme Term

/-- Whether the check of a row passes a text that opens so many brackets at once, in front of a rest. Where there
is no room for so many, it may refuse one of them. -/
def Passes (depth : Nat) (follows : Text → Prop) (t : Text) : Prop :=
  ∀ (row column : Nat) (rest : Text) (brackets : List Bracket), follows rest → brackets.length ≤ bracketLimit →
    lookRow row column (t ++ rest) brackets = lookRow row (column + t.length) rest brackets ∨
      bracketLimit < brackets.length + depth ∧
        ∃ k : Nat, lookRow row column (t ++ rest) brackets = .fault ⟨.deepBrackets, row, k⟩

def Follows : Rank → Text → Prop
  | .path => Breaks
  | .whole => Stops

theorem closers_marks : closers.all (fun m => marks.contains m && m != '.' && m != '"') = true := by decide

theorem stops_breaks {rest : Text} (stops : Stops rest) :
    Breaks rest ∧ rest.head? ≠ some (.scalar '.') ∧ rest.head? ≠ some (.scalar '"') := by
  cases rest with
  | nil => exact ⟨breaks_nil, by simp, by simp⟩
  | cons c u =>
    obtain ⟨m, member, rfl⟩ := stops c rfl
    have known := List.all_eq_true.mp closers_marks m member
    simp only [Bool.and_eq_true, List.contains_iff_mem, bne_iff_ne] at known
    obtain ⟨⟨mark, pointless⟩, unquoted⟩ := known
    exact ⟨breaks_cons mark u, by simpa using pointless, by simpa using unquoted⟩

variable {depth : Nat} {follows : Text → Prop}

theorem Passes.weaken {less : Nat} {t : Text} (passes : Passes less follows t) (le : less ≤ depth) :
    Passes depth follows t := by
  intro row column rest brackets behind room
  rcases passes row column rest brackets behind room with passed | ⟨deep, refused⟩
  · exact .inl passed
  · exact .inr ⟨by omega, refused⟩

theorem Passes.narrow {less : Text → Prop} {t : Text} (passes : Passes depth follows t)
    (narrows : ∀ rest, less rest → follows rest) : Passes depth less t :=
  fun row column rest brackets behind room => passes row column rest brackets (narrows rest behind) room

theorem passes_append {s t : Text} {between : Text → Prop} (first : Passes depth between s)
    (second : Passes depth follows t) (meets : ∀ rest, follows rest → between (t ++ rest)) :
    Passes depth follows (s ++ t) := by
  intro row column rest brackets behind room
  rw [List.append_assoc, List.length_append, ← Nat.add_assoc]
  rcases first row column (t ++ rest) brackets (meets rest behind) room with passed | refused
  · rw [passed]
    exact second row (column + s.length) rest brackets behind room
  · exact .inr refused

theorem passes_mark {m : Char} (member : m ∈ marks) (opens : closingOf? (.scalar m) = Option.none)
    (closes : isClosing (.scalar m) = false) (pointless : m ≠ '.') :
    Passes depth follows [.scalar m] := by
  intro row column rest brackets _ _
  exact .inl (lookRow_mark member opens closes fun point => absurd point pointless)

theorem passes_word {n : Text} (named : n.isIdentifier = true) : Passes depth Breaks n :=
  fun _ _ _ _ breaks _ => .inl (lookRow_word named breaks)

theorem passes_quote (t : Text) : Passes depth Stops t.quote :=
  fun _ _ _ _ stops _ => .inl (lookRow_quote t (stops_breaks stops).2.2)

theorem passes_nat (n : Nat) : Passes depth Stops (Decimal.ofNat n) := by
  intro row column rest brackets stops _
  obtain ⟨breaks, pointless, _⟩ := stops_breaks stops
  have size := numberSize_nat n (breaks.size pointless)
  obtain ⟨d, ds, figures⟩ := List.exists_cons_of_ne_nil (Decimal.digits_ne_nil 10 n)
  have small := Decimal.digits_lt (by omega : 2 ≤ 10) n d (by simp [figures])
  rw [Decimal.ofNat, figures, List.map_cons] at size ⊢
  exact .inl (lookRow_number small size breaks)

theorem passes_float {x : Binary64} (plain : x.negative = false) (finite : x.isFinite = true) :
    Passes depth Stops x.text := by
  intro row column rest brackets stops _
  obtain ⟨breaks, pointless, _⟩ := stops_breaks stops
  have form := FloatLayout.form_text plain finite
  have size := numberSize_float form (breaks.size pointless)
  obtain ⟨d, v, small, front⟩ := form.front
  rw [front] at size ⊢
  exact .inl (lookRow_number small size breaks)

theorem passes_bracketed {m k : Char} (opens : m ∈ ['(', '[', '\x7b']) (closes : k ∈ [')', ']', '\x7d'])
    (pair : closingOf? (.scalar m) = some (.scalar k)) {t : Text} (inner : Passes depth Stops t) :
    Passes (1 + depth) follows (.scalar m :: (t ++ [.scalar k])) := by
  have closer : k ∈ closers := by
    simp only [List.mem_cons, List.not_mem_nil, or_false] at closes
    rcases closes with rfl | rfl | rfl <;> decide
  intro row column rest brackets _ _
  have split : (.scalar m :: (t ++ [.scalar k])) ++ rest = .scalar m :: (t ++ .scalar k :: rest) := by simp
  rw [split]
  by_cases room : brackets.length < bracketLimit
  · rw [lookRow_open opens room]
    rcases inner row (column + 1) (.scalar k :: rest) (⟨.scalar m, row, column⟩ :: brackets) (stops_cons closer rest)
      room with passed | ⟨deep, refused⟩
    · left
      rw [passed, lookRow_close closes pair]
      congr 1
      simp only [List.length_cons, List.length_append, List.length_nil]
      omega
    · refine .inr ⟨?_, refused⟩
      rw [List.length_cons] at deep
      omega
  · have full : bracketLimit ≤ brackets.length := Nat.not_lt.mp room
    exact .inr ⟨by omega, column, lookRow_full opens full _⟩

theorem passes_comma : Passes depth follows (wording ",") :=
  passes_mark (by decide : ',' ∈ marks) (by decide) (by decide) (by decide)

theorem passes_commaBlank : Passes depth follows (wording ", ") := by
  have comma : Passes depth (fun _ => True) (wording ",") := passes_comma
  exact passes_append comma
    (passes_mark (by decide : ' ' ∈ marks) (by decide) (by decide) (by decide)) fun _ _ => trivial

theorem passes_joinWith {sep : Text} (between : Passes depth (fun _ => True) sep)
    (stops : ∀ u, Stops (sep ++ u)) {ts : List Text} (each : ∀ t ∈ ts, Passes depth Stops t) :
    Passes depth Stops (Text.joinWith sep ts) := by
  induction ts with
  | nil => exact fun _ _ _ _ _ _ => .inl rfl
  | cons t ts ih =>
    have later := ih fun u member => each u (List.mem_cons_of_mem t member)
    cases ts with
    | nil => exact each t (by simp)
    | cons u us =>
      rw [joinWith_cons sep t (List.cons_ne_nil u us), List.append_assoc]
      exact passes_append (each t (by simp)) (passes_append between later fun _ _ => trivial)
        fun rest _ => by
          rw [List.append_assoc]
          exact stops _

theorem passes_member {n : Text} (fit : n.IsName) : Passes depth Breaks (wording "." ++ n) := by
  intro row column rest brackets breaks _
  have point : wording "." ++ n ++ rest = .scalar '.' :: (n ++ rest) := rfl
  left
  rw [point, lookRow_mark (by decide) (by decide) (by decide), lookRow_word fit.1 breaks, List.length_append]
  · rw [Nat.add_assoc]
    rfl
  · intro _ d head
    obtain ⟨c, v, rfl, starts, _⟩ := Text.exists_cons_of_isIdentifier fit.1
    cases head
    exact isDigit_startsName starts

theorem passes_minus : Passes depth (fun _ => True) (wording "-") :=
  passes_mark (by decide : '-' ∈ marks) (by decide) (by decide) (by decide)

theorem passes_plus : Passes depth (fun _ => True) (wording " + ") := by
  have blank : Passes depth (fun _ => True) [.scalar ' '] :=
    passes_mark (by decide) (by decide) (by decide) (by decide)
  have plus : Passes depth (fun _ => True) [.scalar '+'] :=
    passes_mark (by decide) (by decide) (by decide) (by decide)
  exact passes_append (passes_append blank plus fun _ _ => trivial) blank fun _ _ => trivial

theorem passes_items {items : List Term} (each : ∀ a ∈ items, Passes a.nesting Stops a.spelled) :
    ∀ u ∈ spelledAll items, Passes (nestingAll items) Stops u := by
  intro u member
  rw [spelledAll_eq, List.mem_map] at member
  obtain ⟨a, inside, rfl⟩ := member
  exact (each a inside).weaken (nesting_le_all inside)

theorem passes_entries {entries : List (Term × Term)}
    (keys : ∀ e ∈ entries, Passes e.1.nesting Stops e.1.spelled)
    (values : ∀ e ∈ entries, Passes e.2.nesting Stops e.2.spelled) :
    ∀ u ∈ spelledEntries entries, Passes (nestingEntries entries) Stops u := by
  intro u member
  rw [spelledEntries_eq, List.mem_map] at member
  obtain ⟨e, inside, rfl⟩ := member
  have key := (keys e inside).weaken (nesting_le_entries inside).1
  have value := (values e inside).weaken (nesting_le_entries inside).2
  have colon : Passes (nestingEntries entries) (fun _ => True) (wording ":") :=
    passes_mark (by decide : ':' ∈ marks) (by decide) (by decide) (by decide)
  refine passes_append (passes_append key colon ?_) value fun _ _ => trivial
  exact fun rest _ => stops_cons (by decide) _

theorem passes_named {named : List (Text × Term)} (fits : ∀ e ∈ named, e.1.IsName)
    (values : ∀ e ∈ named, Passes e.2.nesting Stops e.2.spelled) :
    ∀ u ∈ spelledNamed named, Passes (nestingNamed named) Stops u := by
  intro u member
  rw [spelledNamed_eq, List.mem_map] at member
  obtain ⟨e, inside, rfl⟩ := member
  have sign : Passes (nestingNamed named) (fun _ => True) (wording "=") :=
    passes_mark (by decide : '=' ∈ marks) (by decide) (by decide) (by decide)
  have value := (values e inside).weaken (nesting_le_named inside)
  refine passes_append (passes_append (passes_word (fits e inside).1) sign ?_) value ?_
  · exact fun rest _ => breaks_cons (by decide) _
  · exact fun rest _ => trivial

/-- The induction is on how the term is emitted. A term is passed wherever its brackets find room. -/
theorem passes_spelled {r : Rank} {t : Term} (emitted : Emitted r t) :
    Passes t.nesting (Follows r) t.spelled := by
  have comma : ∀ u, Stops (wording "," ++ u) := stops_cons (by decide)
  have commaBlank : ∀ u, Stops (wording ", " ++ u) := fun u => stops_cons (by decide) _
  induction emitted with
  | name fit => exact passes_word fit.1
  | @attr t n base fit ih =>
    have split : (Term.attr t n).spelled = t.spelled ++ (wording "." ++ n) := List.append_assoc _ _ _
    rw [split]
    exact passes_append ih (passes_member fit) fun rest _ => breaks_cons (by decide) _
  | @item t key base inner ih ihKey =>
    have split : (Term.item t key).spelled = t.spelled ++ (.scalar '[' :: (key.spelled ++ [.scalar ']'])) := by
      rw [spelled, List.append_assoc, List.append_assoc]
      rfl
    rw [split, nesting]
    refine passes_append (ih.weaken (by omega)) ?_ fun rest _ => breaks_cons (by decide) _
    exact (passes_bracketed (by decide) (by decide) (by decide) ihKey).weaken (by omega)
  | @call f args named base fits inner innerNamed ih ihArgs ihNamed =>
    have split : (Term.call f args named).spelled = f.spelled ++
        (.scalar '(' :: (Text.joinWith (wording ", ") (spelledAll args ++ spelledNamed named) ++
          [.scalar ')'])) := by
      rw [spelled, List.append_assoc, List.append_assoc]
      rfl
    have each : ∀ u ∈ spelledAll args ++ spelledNamed named,
        Passes (max (nestingAll args) (nestingNamed named)) Stops u := by
      intro u member
      rcases List.mem_append.mp member with plain | fitted
      · exact (passes_items ihArgs u plain).weaken (Nat.le_max_left _ _)
      · exact (passes_named fits ihNamed u fitted).weaken (Nat.le_max_right _ _)
    rw [split, nesting]
    refine passes_append (ih.weaken (by omega)) ?_ fun rest _ => breaks_cons (by decide) _
    exact (passes_bracketed (by decide) (by decide) (by decide)
      (passes_joinWith passes_commaBlank commaBlank each)).weaken (by omega)
  | path path ih => exact Passes.narrow ih fun rest stops => (stops_breaks stops).1
  | text t => exact passes_quote t
  | nat n => exact passes_nat n
  | float plain finite => exact passes_float plain finite
  | truth b =>
    have named : (spelled (.truth b)).isIdentifier = true := by cases b <;> decide
    exact (passes_word named).narrow fun rest stops => (stops_breaks stops).1
  | none => exact (passes_word (by decide)).narrow fun rest stops => (stops_breaks stops).1
  | negativeNat n => exact passes_append passes_minus (passes_nat n) fun _ _ => trivial
  | negativeFloat plain finite =>
    exact passes_append passes_minus (passes_float plain finite) fun _ _ => trivial
  | list inner ih =>
    exact passes_bracketed (by decide) (by decide) (by decide)
      (passes_joinWith passes_comma comma (passes_items ih))
  | dict keys inner ihKeys ih =>
    exact passes_bracketed (by decide) (by decide) (by decide)
      (passes_joinWith passes_comma comma (passes_entries ihKeys ih))
  | @sum a b first second ih ihSecond =>
    rw [spelled, nesting]
    refine passes_append (passes_append (ih.weaken (by omega)) passes_plus ?_)
      (Passes.narrow (ihSecond.weaken (by omega)) fun rest stops => (stops_breaks stops).1) ?_
    · exact fun rest _ => breaks_cons (by decide) _
    · exact fun rest _ => trivial

end Broken

end RenderSource
