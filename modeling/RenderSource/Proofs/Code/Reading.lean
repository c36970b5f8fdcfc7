import RenderSource.Proofs.Code.Displays
import RenderSource.Proofs.Text.Quoting
/-!
Emitted expressions read back. Reading a spelled term gives the term and leaves what follows it, if
that begins with a mark that ends expressions; fuel in proportion to the text is enough.
-/
namespace RenderSource

namespace Term

/-- Reading a path goes on with what is applied to it. -/
def ReadsPath (t : Term) : Prop :=
  ∀ fuel rest, EndsName rest → 4 * (spelled t).length ≤ fuel + 2 →
    ∃ left, fuel + 1 ≤ left + (spelled t).length ∧
      (do let (a, r) ← readAtom fuel (spelled t ++ rest); readParts fuel a r) = readParts left t rest

theorem readFactor_unsigned {fuel : Nat} {s : Text} {c : CodePoint} {u : Text}
    (skipped : skipBlanks s = c :: u) (unsigned : c ≠ .scalar '-')
    (unawaited : (spanName (c :: u)).1 ≠ wording "await") :
    readFactor (fuel + 1) s =
      (do let (a, r) ← readAtom fuel (c :: u); readParts fuel a r) := by
  rw [readFactor, skipped]
  split
  · rename_i same
    cases same
    exact absurd rfl unsigned
  · simp only [unawaited, ↓reduceIte]

theorem readWithin_factor {fuel : Nat} {s rest : Text} {t : Term} (stops : Stops rest)
    (undenied : (spanName (skipBlanks s)).1 ≠ wording "not")
    (factor : readFactor fuel s = .ok (t, rest)) : readWithin (fuel + 1) s = .ok (t, rest) := by
  rw [readWithin]
  simp only [undenied, ↓reduceIte, factor, bind, Except.bind, readSum_stops stops]

theorem readFactor_atom {fuel : Nat} {s rest : Text} {c : CodePoint} {u : Text} {t : Term}
    (stops : Stops rest) (fresh : Fresh (c :: u)) (skipped : skipBlanks s = c :: u)
    (unsigned : c ≠ .scalar '-') (atom : readAtom fuel (c :: u) = .ok (t, rest)) :
    readFactor (fuel + 1) s = .ok (t, rest) := by
  rw [readFactor_unsigned skipped unsigned fresh.unawaited, atom]
  simp only [bind, Except.bind, readParts_stops stops]

structure IsAtom (t : Term) : Prop where
  emitted : Emitted .whole t
  front : ∀ rest, ∃ c u, spelled t ++ rest = c :: u ∧ c ≠ .scalar '-'
  reads : ∀ fuel rest, Stops rest → 4 * (spelled t).length ≤ fuel + 3 →
    readAtom fuel (spelled t ++ rest) = .ok (t, rest)

theorem IsAtom.readFactor {t : Term} (atom : IsAtom t) {fuel : Nat} {s rest : Text} (stops : Stops rest)
    (skipped : skipBlanks s = spelled t ++ rest) (enough : 4 * (spelled t).length ≤ fuel + 2) :
    readFactor fuel s = .ok (t, rest) := by
  obtain ⟨c, u, front, unsigned⟩ := atom.front rest
  have long : 1 ≤ (spelled t).length := by
    obtain ⟨c, u, front, _⟩ := atom.front []
    rw [List.append_nil] at front
    rw [front, List.length_cons]
    omega
  obtain ⟨fuel, rfl⟩ : ∃ k, fuel = k + 1 := ⟨fuel - 1, by omega⟩
  have fresh := atom.emitted.fresh stops.plain
  have read := atom.reads fuel rest stops (by omega)
  rw [front] at skipped fresh read
  exact readFactor_atom stops fresh skipped unsigned read

theorem IsAtom.readsWhole {t : Term} (atom : IsAtom t) : ReadsWhole t := by
  intro fuel s rest stops skipped enough
  have fresh := atom.emitted.fresh stops.plain
  obtain ⟨fuel, rfl⟩ : ∃ k, fuel = k + 1 := by
    obtain ⟨c, u, front, _⟩ := atom.front []
    rw [List.append_nil] at front
    rw [front, List.length_cons] at enough
    exact ⟨fuel - 1, by omega⟩
  exact readWithin_factor stops (by rw [skipped]; exact fresh.undenied)
    (atom.readFactor stops skipped (by omega))

theorem isAtom_text (t : Text) : IsAtom (.text t) where
  emitted := .text t
  front rest := ⟨_, _, rfl, by decide⟩
  reads fuel rest stops enough := by
    obtain ⟨fuel, rfl⟩ : ∃ k, fuel = k + 1 := ⟨fuel - 1, by
      rw [spelled, Text.quote_eq] at enough
      simp only [List.length_cons] at enough
      omega⟩
    rw [spelled, Text.quote_eq, List.cons_append, List.append_assoc, readAtom, if_pos rfl]
    have body := Text.unquoteBody_quoteBody t rest
    rw [List.singleton_append, body]

theorem digitText_marks : ∀ d, d < 10 → Decimal.digitText d ≠ .scalar '-' ∧
    Decimal.digitText d ≠ .scalar '"' ∧ Decimal.digitText d ≠ .scalar '[' ∧
    Decimal.digitText d ≠ .scalar '(' ∧ Decimal.digitText d ≠ .scalar '\x7b' ∧
    (Decimal.digitText d).isDigit = true := by decide

theorem readAtom_figure {d : Nat} (small : d < 10) (fuel : Nat) (u : Text) :
    readAtom (fuel + 1) (Decimal.digitText d :: u) = .ok (readNumber (Decimal.digitText d :: u)) := by
  obtain ⟨_, quote, square, round, curly, digit⟩ := digitText_marks d small
  rw [readAtom]
  simp only [quote, square, round, curly, digit, ↓reduceIte]

theorem isAtom_number {t : Term} (emitted : Emitted .whole t) {d : Nat} (small : d < 10) {more : Text}
    (front : spelled t = Decimal.digitText d :: more)
    (reads : ∀ rest, EndsNumber rest → readNumber (spelled t ++ rest) = (t, rest)) : IsAtom t where
  emitted := emitted
  front rest := ⟨_, _, by rw [front, List.cons_append], (digitText_marks d small).1⟩
  reads fuel rest stops enough := by
    obtain ⟨fuel, rfl⟩ : ∃ k, fuel = k + 1 := ⟨fuel - 1, by
      rw [front] at enough
      simp only [List.length_cons] at enough
      omega⟩
    have read := reads rest stops.number
    rw [front, List.cons_append] at read ⊢
    rw [readAtom_figure small, read]

theorem isAtom_nat (n : Nat) : IsAtom (.nat n) := by
  obtain ⟨f, fs, parts⟩ := List.exists_cons_of_ne_nil (Decimal.digits_ne_nil 10 n)
  have small := Decimal.digits_lt (by omega : 2 ≤ 10) n f (by simp [parts])
  have front : spelled (.nat n) = Decimal.digitText f :: fs.map Decimal.digitText := by
    rw [spelled, Decimal.ofNat, parts, List.map_cons]
  exact isAtom_number (.nat n) small front (fun rest ends => readNumber_nat n ends)

theorem isAtom_float {x : Binary64} (plain : x.negative = false) (finite : x.isFinite = true) :
    IsAtom (.float x) := by
  obtain ⟨f, small, more, front⟩ := FloatLayout.text_front plain finite
  exact isAtom_number (.float plain finite) small front
    (fun rest ends => readNumber_float plain finite ends)

theorem readAtom_word {w : Text} (identifier : w.isIdentifier = true) (fuel : Nat) (u : Text) :
    readAtom (fuel + 1) (w ++ u) = readWord (w ++ u) := by
  obtain ⟨c, w, rfl, starts, _⟩ := Text.exists_cons_of_isIdentifier identifier
  rw [List.cons_append, readAtom]
  simp only [startsName_ne starts (by decide : (CodePoint.scalar '"').startsName = false),
    startsName_ne starts (by decide : (CodePoint.scalar '[').startsName = false),
    startsName_ne starts (by decide : (CodePoint.scalar '(').startsName = false),
    startsName_ne starts (by decide : (CodePoint.scalar '\x7b').startsName = false),
    isDigit_startsName starts, Bool.false_eq_true, ↓reduceIte]

theorem word_front {w : Text} (identifier : w.isIdentifier = true) (u : Text) :
    ∃ c v, w ++ u = c :: v ∧ c ≠ .scalar '-' := by
  obtain ⟨c, w, rfl, starts, _⟩ := Text.exists_cons_of_isIdentifier identifier
  exact ⟨c, w ++ u, rfl, startsName_ne starts (by decide)⟩

theorem isAtom_word {t : Term} (emitted : Emitted .whole t) (identifier : (spelled t).isIdentifier = true)
    (reads : ∀ rest, EndsName rest → readWord (spelled t ++ rest) = .ok (t, rest)) : IsAtom t where
  emitted := emitted
  front rest := word_front identifier rest
  reads fuel rest stops enough := by
    have some := Text.length_of_isIdentifier identifier
    obtain ⟨fuel, rfl⟩ : ∃ k, fuel = k + 1 := ⟨fuel - 1, by omega⟩
    rw [readAtom_word identifier, reads rest stops.name]

theorem isAtom_truth (b : Bool) : IsAtom (.truth b) := by
  cases b with
  | false =>
    refine isAtom_word (.truth false) (by decide) (fun rest ends => ?_)
    rw [readWord, show spelled (.truth false) = wording "False" from rfl,
      spanName_append (by decide) ends]
    simp only [(by decide : wording "False" ≠ wording "None"),
      (by decide : wording "False" ≠ wording "True"), ↓reduceIte]
  | true =>
    refine isAtom_word (.truth true) (by decide) (fun rest ends => ?_)
    rw [readWord, show spelled (.truth true) = wording "True" from rfl,
      spanName_append (by decide) ends]
    simp only [(by decide : wording "True" ≠ wording "None"), ↓reduceIte]

theorem isAtom_none : IsAtom .none := by
  refine isAtom_word .none (by decide) (fun rest ends => ?_)
  rw [readWord, show spelled .none = wording "None" from rfl, spanName_append (by decide) ends]
  simp only [↓reduceIte]

theorem isAtom_list {items : List Term} (emitted : ∀ t ∈ items, Emitted .whole t)
    (reads : ∀ t ∈ items, ReadsWhole t) : IsAtom (.list items) where
  emitted := .list emitted
  front rest := ⟨_, _, rfl, by decide⟩
  reads fuel rest stops enough := by
    simp only [spelled, List.length_append] at enough
    have one : (wording "[").length = 1 := rfl
    have one' : (wording "]").length = 1 := rfl
    obtain ⟨fuel, rfl⟩ : ∃ k, fuel = k + 1 := ⟨fuel - 1, by omega⟩
    have inner := readItems_spelled (by decide : ']' ∈ closers) (by decide) (by decide) emitted reads
      rest (by omega : _ + 1 ≤ fuel)
    rw [spelled, List.append_assoc, List.append_assoc]
    change readAtom (fuel + 1) (.scalar '[' :: (Text.joinWith (wording ",") (spelledAll items) ++
      .scalar ']' :: rest)) = _
    rw [readAtom, inner]
    simp [bind, Except.bind, pure, Except.pure]

theorem isAtom_dict {entries : List (Term × Term)} (emittedKeys : ∀ e ∈ entries, Emitted .whole e.1)
    (emitted : ∀ e ∈ entries, Emitted .whole e.2) (readsKeys : ∀ e ∈ entries, ReadsWhole e.1)
    (reads : ∀ e ∈ entries, ReadsWhole e.2) : IsAtom (.dict entries) where
  emitted := .dict emittedKeys emitted
  front rest := ⟨_, _, rfl, by decide⟩
  reads fuel rest stops enough := by
    simp only [spelled, List.length_append] at enough
    have one : (wording "\x7b").length = 1 := rfl
    have one' : (wording "\x7d").length = 1 := rfl
    obtain ⟨fuel, rfl⟩ : ∃ k, fuel = k + 1 := ⟨fuel - 1, by omega⟩
    have inner := readEntries_spelled emittedKeys emitted readsKeys reads rest (by omega : _ + 1 ≤ fuel)
    rw [spelled, List.append_assoc, List.append_assoc]
    change readAtom (fuel + 1) (.scalar '\x7b' :: (Text.joinWith (wording ",")
      (spelledEntries entries) ++ .scalar '\x7d' :: rest)) = _
    rw [readAtom, inner]
    simp [bind, Except.bind, pure, Except.pure]

theorem readsWhole_negative {t : Term} (atom : IsAtom t) (emitted : Emitted .whole (.negative t)) :
    ReadsWhole (.negative t) := by
  intro fuel s rest stops skipped enough
  have fresh := emitted.fresh stops.plain
  simp only [spelled, List.length_append] at enough
  have one : (wording "-").length = 1 := rfl
  obtain ⟨fuel, rfl⟩ : ∃ k, fuel = k + 2 := ⟨fuel - 2, by omega⟩
  apply readWithin_factor stops (by rw [skipped]; exact fresh.undenied)
  have inner := (atom.emitted.fresh stops.plain).unblanked
  rw [readFactor, skipped, show spelled (.negative t) ++ rest =
    .scalar '-' :: (spelled t ++ rest) from rfl]
  simp only [atom.readFactor stops inner (show _ ≤ fuel + 2 by omega), bind, Except.bind]
  rfl

theorem readName_append {n u : Text} (fit : n.IsName) (ends : EndsName u) :
    readName (n ++ u) = .ok (n, u) := by
  unfold readName
  simp only [skipBlanks_word fit.1, spanName_append fit.1 ends, Text.isEmpty_of_isIdentifier fit.1, fit.2,
    Bool.or_self, Bool.false_eq_true, ↓reduceIte]

theorem readsPath_name {n : Text} (fit : n.IsName) : ReadsPath (.name n) := by
  intro fuel rest ends enough
  obtain ⟨c, v, front, _⟩ := word_front fit.1 []
  rw [List.append_nil] at front
  have some : 0 < (spelled (.name n)).length := Text.length_of_isIdentifier fit.1
  obtain ⟨fuel, rfl⟩ : ∃ k, fuel = k + 1 := ⟨fuel - 1, by omega⟩
  have word : readWord (n ++ rest) = .ok (.name n, rest) := by
    rw [readWord, spanName_append fit.1 ends]
    simp only [fit.not_reserved (by decide : "None" ∈ reservedWords),
      fit.not_reserved (by decide : "True" ∈ reservedWords),
      fit.not_reserved (by decide : "False" ∈ reservedWords),
      fit.not_reserved (by decide : "lambda" ∈ reservedWords), fit.2, ↓reduceIte, Bool.or_false]
    rw [front]
    rfl
  refine ⟨fuel + 1, by omega, ?_⟩
  rw [spelled, readAtom_word fit.1, word]
  rfl

/-- A part behind a path: the path is read up to the mark that the part begins with, then the part. -/
theorem ReadsPath.part {t u : Term} (base : ReadsPath t) {m : Char} {p : Text}
    (ends : (CodePoint.scalar m).continuesName = false) (spelling : spelled u = spelled t ++ .scalar m :: p)
    (part : ∀ left rest, EndsName rest → 4 * p.length + 2 ≤ left →
      readParts (left + 1) t (.scalar m :: (p ++ rest)) = readParts left u rest) : ReadsPath u := by
  intro fuel rest after enough
  simp only [spelling, List.length_append, List.length_cons] at enough ⊢
  have mark : EndsName (.scalar m :: (p ++ rest)) := by
    intro c head
    cases head
    exact ends
  obtain ⟨left, bound, read⟩ := base fuel _ mark (by omega)
  obtain ⟨left, rfl⟩ : ∃ k, left = k + 1 := ⟨left - 1, by omega⟩
  refine ⟨left, by omega, ?_⟩
  rw [List.append_assoc, List.cons_append]
  exact read.trans (part left rest after (by omega))

theorem readsPath_attr {t : Term} {n : Text} (base : ReadsPath t) (fit : n.IsName) :
    ReadsPath (.attr t n) := by
  have spelling : spelled (.attr t n) = spelled t ++ .scalar '.' :: n := by
    rw [spelled, List.append_assoc]
    rfl
  refine base.part (by decide) spelling fun left rest ends _ => ?_
  rw [readParts, readName_append fit ends]
  rfl

theorem readsPath_item {t key : Term} (base : ReadsPath t) (emitted : Emitted .whole key)
    (inner : ReadsWhole key) : ReadsPath (.item t key) := by
  have spelling : spelled (.item t key) = spelled t ++ .scalar '[' :: (spelled key ++ [.scalar ']']) := by
    rw [spelled, List.append_assoc, List.append_assoc]
    rfl
  refine base.part (by decide) spelling fun left rest _ enough => ?_
  have stops := stops_cons (by decide : ']' ∈ closers) rest
  rw [List.length_append] at enough
  rw [readParts, List.append_assoc, List.singleton_append,
    inner left _ _ stops (emitted.fresh stops.plain).unblanked (by omega)]
  simp only [bind, Except.bind, readMark_cons (by decide : ']' ≠ ' ')]

theorem readsPath_call {f : Term} {args : List Term} {named : List (Text × Term)} (base : ReadsPath f)
    (fits : ∀ e ∈ named, e.1.IsName) (emitted : ∀ a ∈ args, Emitted .whole a)
    (emittedNamed : ∀ e ∈ named, Emitted .whole e.2) (reads : ∀ a ∈ args, ReadsWhole a)
    (readsNamed : ∀ e ∈ named, ReadsWhole e.2) : ReadsPath (.call f args named) := by
  have spelling : spelled (.call f args named) = spelled f ++ .scalar '(' ::
      (Text.joinWith (wording ", ") (spelledAll args ++ spelledNamed named) ++ [.scalar ')']) := by
    rw [spelled, List.append_assoc, List.append_assoc]
    rfl
  refine base.part (by decide) spelling fun left rest _ enough => ?_
  rw [List.length_append] at enough
  rw [readParts, List.append_assoc, List.singleton_append,
    readArguments_spelled fits emitted emittedNamed reads readsNamed rest (by omega)]
  rfl

theorem ReadsPath.readFactor {t : Term} (reads : ReadsPath t) (emitted : Emitted .path t) {fuel : Nat}
    {s rest : Text} (ends : EndsPlain rest) (unparted : ∀ left, readParts left t rest = .ok (t, rest))
    (skipped : skipBlanks s = spelled t ++ rest) (enough : 4 * (spelled t).length ≤ fuel + 1) :
    readFactor fuel s = .ok (t, rest) := by
  have fresh := fresh_path emitted ends
  obtain ⟨n, u, fit, front, _⟩ := emitted.path_front
  obtain ⟨c, v, split, unsigned⟩ := word_front fit.1 (u ++ rest)
  rw [← List.append_assoc, ← front] at split
  have some := emitted.path_length
  obtain ⟨fuel, rfl⟩ : ∃ k, fuel = k + 1 := ⟨fuel - 1, by omega⟩
  obtain ⟨left, _, read⟩ := reads fuel rest ends.name (by omega)
  rw [readFactor_unsigned (skipped.trans split) unsigned (by rw [← split]; exact fresh.unawaited),
    ← split]
  exact read.trans (unparted left)

theorem ReadsPath.readsWhole {t : Term} (reads : ReadsPath t) (emitted : Emitted .path t) :
    ReadsWhole t := by
  intro fuel s rest stops skipped enough
  have fresh := fresh_path emitted stops.plain
  have some := emitted.path_length
  obtain ⟨fuel, rfl⟩ : ∃ k, fuel = k + 1 := ⟨fuel - 1, by omega⟩
  exact readWithin_factor stops (by rw [skipped]; exact fresh.undenied)
    (reads.readFactor emitted stops.plain (fun left => readParts_stops stops left t) skipped (by omega))

theorem readParts_blank (left : Nat) (t : Term) (u : Text) :
    readParts left t (.scalar ' ' :: u) = .ok (t, .scalar ' ' :: u) := by
  cases left with
  | zero => rfl
  | succ left => rfl

theorem readsWhole_sum {a b : Term} (readsFirst : ReadsPath a) (reads : ReadsPath b)
    (first : Emitted .path a) (second : Emitted .path b) : ReadsWhole (.sum a b) := by
  intro fuel s rest stops skipped enough
  simp only [spelled, List.length_append] at enough
  have three : (wording " + ").length = 3 := rfl
  obtain ⟨fuel, rfl⟩ : ∃ k, fuel = k + 2 := ⟨fuel - 2, by omega⟩
  have fresh := (Emitted.sum first second).fresh stops.plain
  have blank := endsPlain_cons (by decide : (CodePoint.scalar ' ').continuesName = false) (by decide)
    (.scalar '+' :: .scalar ' ' :: (spelled b ++ rest))
  have skipped' : skipBlanks s = spelled a ++ .scalar ' ' :: .scalar '+' :: .scalar ' ' ::
      (spelled b ++ rest) := by
    rw [skipped, spelled, List.append_assoc, List.append_assoc]
    rfl
  have one := @ReadsPath.readFactor a readsFirst first (fuel + 1) s _ blank
    (fun left => readParts_blank left a _) skipped' (by omega)
  have unblanked := (fresh_path second stops.plain).unblanked
  have two := @ReadsPath.readFactor b reads second fuel (.scalar ' ' :: (spelled b ++ rest)) rest
    stops.plain (fun left => readParts_stops stops left b)
    (by rw [skipBlanks_blank, unblanked]) (by omega)
  rw [readWithin]
  simp only [skipped, fresh.undenied, ↓reduceIte, one, bind, Except.bind]
  rw [readSum, skipBlanks_blank, skipBlanks_cons (by decide)]
  simp only [two, bind, Except.bind, readSum_stops stops]

/-- What emitted terms of each rank read back to. -/
def Reads : Rank → Term → Prop
  | .path, t => ReadsPath t
  | .whole, t => ReadsWhole t

/-- The induction is on how the term is emitted; each case reads one kind of expression. -/
theorem Emitted.reads {r : Rank} {t : Term} (emitted : Emitted r t) : Reads r t := by
  induction emitted with
  | name fit => exact readsPath_name fit
  | attr base fit ih => exact readsPath_attr ih fit
  | item base inner ih ih' => exact readsPath_item ih inner ih'
  | call base fits inner innerNamed ih ih' ihNamed =>
    exact readsPath_call ih fits inner innerNamed ih' ihNamed
  | path path ih => exact ReadsPath.readsWhole ih path
  | text t => exact (isAtom_text t).readsWhole
  | nat n => exact (isAtom_nat n).readsWhole
  | float plain finite => exact (isAtom_float plain finite).readsWhole
  | truth b => exact (isAtom_truth b).readsWhole
  | none => exact isAtom_none.readsWhole
  | negativeNat n => exact readsWhole_negative (isAtom_nat n) (.negativeNat n)
  | negativeFloat plain finite =>
    exact readsWhole_negative (isAtom_float plain finite) (.negativeFloat plain finite)
  | list inner ih => exact (isAtom_list inner ih).readsWhole
  | dict keys inner ihKeys ih => exact (isAtom_dict keys inner ihKeys ih).readsWhole
  | sum first second ih ih' => exact readsWhole_sum ih ih' first second

theorem read_spelled {t : Term} (emitted : Emitted .whole t) {rest : Text} (stops : Stops rest) :
    read (spelled t ++ rest) = .ok (t, rest) := by
  have reads : ReadsWhole t := emitted.reads
  refine reads _ _ rest stops (emitted.fresh stops.plain).unblanked ?_
  simp only [depthFor, List.length_append]
  omega

theorem readAll_spelled {t : Term} (emitted : Emitted .whole t) : readAll (spelled t) = .ok t := by
  have whole := read_spelled emitted stops_nil
  rw [List.append_nil] at whole
  rw [readAll, whole]
  rfl

end Term

end RenderSource
