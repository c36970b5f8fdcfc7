import Mathlib.Data.List.Find
import RenderSource.Proofs.Code.Moving
/-!
Rows up to a double quote. A lexeme that ends in front of the quote is the same whatever the quote begins; any
other one takes the quote along.
-/
namespace RenderSource.Lexeme

variable {p v : Text} {n : Nat}

theorem QuietTo.front (quiet : QuietTo n (p ++ .scalar '"' :: v)) : n ≤ p.length := by
  by_contra long
  have member : CodePoint.scalar '"' ∈ (p ++ .scalar '"' :: v).take n := by
    rw [List.take_append, List.take_of_length_le (by omega)]
    obtain ⟨m, length⟩ : ∃ m, n - p.length = m + 1 := ⟨n - p.length - 1, by omega⟩
    rw [length, List.take_succ_cons]
    exact List.mem_append_right p List.mem_cons_self
  exact absurd (quiet _ member) (by decide)

section Figures

variable {ok : CodePoint → Bool} (unquoted : ok (.scalar '"') = false)

include unquoted

theorem more_quote (v : Text) : figures.more ok (.scalar '"' :: v) = 0 := by
  cases v with
  | nil => rw [figures.more, if_neg (by simp [unquoted])]
  | cons c v => rw [figures.more, if_neg (by simp [unquoted]), if_neg (by simp)]

theorem more_front (p v : Text) : figures.more ok (p ++ .scalar '"' :: v) = figures.more ok p := by
  fun_induction figures.more ok p with
  | case1 => exact more_quote unquoted v
  | case2 c figure => rw [List.singleton_append, figures.more, if_pos figure, more_quote unquoted]
  | case3 c other =>
    rw [List.singleton_append, figures.more, if_neg other, if_neg (by simp [unquoted])]
  | case4 c d t figure ih =>
    rw [List.cons_append, List.cons_append, figures.more, if_pos figure, ← ih, List.cons_append]
  | case5 c d t other low ih =>
    rw [List.cons_append, List.cons_append, figures.more, if_neg other, if_pos low, ih]
  | case6 c d t other high =>
    rw [List.cons_append, List.cons_append, figures.more, if_neg other, if_neg high]

theorem figures_front (p v : Text) : figures ok (p ++ .scalar '"' :: v) = figures ok p := by
  cases p with
  | nil => simp [figures, unquoted]
  | cons c p => rw [List.cons_append, figures, more_front unquoted, figures]

end Figures

theorem digitRun_front (p v : Text) : digitRun (p ++ .scalar '"' :: v) = digitRun p :=
  figures_front (by decide) p v

theorem drop_digitRun (p v : Text) :
    (p ++ .scalar '"' :: v).drop (digitRun p) = p.drop (digitRun p) ++ .scalar '"' :: v := by
  have quiet := digitRun_quiet (p ++ .scalar '"' :: v)
  rw [digitRun_front] at quiet
  exact List.drop_append_of_le_length quiet.front

theorem exponent_quote (v : Text) : exponent (.scalar '"' :: v) = 0 := by
  unfold exponent
  exact if_pos (by decide)

theorem exponent_front (p v : Text) : exponent (p ++ .scalar '"' :: v) = exponent p := by
  cases p with
  | nil => exact exponent_quote v
  | cons c p =>
    rw [List.cons_append]
    unfold exponent
    cases p with
    | nil =>
      have none : digitRun (.scalar '"' :: v) = 0 := digitRun_front [] v
      have empty : digitRun [] = 0 := rfl
      simp [none, empty]
    | cons d p =>
      have signed := digitRun_front p v
      have unsigned := digitRun_front (d :: p) v
      rw [List.cons_append] at unsigned ⊢
      dsimp only
      split
      · rfl
      · split
        · rw [signed]
        · rw [unsigned]

theorem floating_front (p v : Text) : floating (p ++ .scalar '"' :: v) = floating p := by
  unfold floating
  dsimp only
  rw [digitRun_front, drop_digitRun]
  cases p.drop (digitRun p) with
  | nil => simp [exponent_quote]
  | cons c u =>
    have whole := exponent_front (c :: u) v
    rw [List.cons_append] at whole ⊢
    dsimp only
    rw [digitRun_front, drop_digitRun, exponent_front, whole]

theorem based_front {letter : Char} {ok : CodePoint → Bool} (unlettered : isLetter (.scalar '"') letter = false)
    (unquoted : ok (.scalar '"') = false) (p v : Text) :
    based letter ok (p ++ .scalar '"' :: v) = based letter ok p := by
  match p with
  | [] =>
    rw [List.nil_append]
    cases v <;> simp [based]
  | [a] => simp [based, unlettered]
  | [a, b] =>
    have none : figures ok (.scalar '"' :: v) = 0 := figures_front unquoted [] v
    simp [based, none]
  | a :: b :: c :: u =>
    have low := figures_front unquoted u v
    have first := figures_front unquoted (c :: u) v
    rw [List.cons_append] at first
    simp only [List.cons_append, based, low, first]

theorem decimal_front (p v : Text) : decimal (p ++ .scalar '"' :: v) = decimal p := by
  cases p with
  | nil =>
    have none : digitRun (.scalar '"' :: v) = 0 := digitRun_front [] v
    simp [decimal, none]
  | cons c p =>
    have zeros := @figures_front (fun d => d = .scalar '0') (by decide) (c :: p) v
    have digits := digitRun_front (c :: p) v
    rw [List.cons_append] at zeros digits ⊢
    rw [decimal, zeros, digits, decimal]

theorem isImaginaryMark_front (p v : Text) :
    isImaginaryMark (p ++ .scalar '"' :: v) = isImaginaryMark p := by
  cases p with
  | nil => rfl
  | cons c p => rfl

theorem numberSize_front (p v : Text) : numberSize (p ++ .scalar '"' :: v) = numberSize p := by
  have short : floating p ≤ p.length := by
    have quiet := floating_quiet (p ++ .scalar '"' :: v)
    rw [floating_front] at quiet
    exact quiet.front
  unfold numberSize
  dsimp only
  rw [digitRun_front, floating_front, drop_digitRun, isImaginaryMark_front, List.drop_append_of_le_length short,
    isImaginaryMark_front, based_front (by decide) (by decide), based_front (by decide) (by decide),
    based_front (by decide) (by decide), decimal_front]

theorem beginsWith_front {o : Text} (unquoted : CodePoint.scalar '"' ∉ o) (p v : Text) :
    Text.beginsWith o (p ++ .scalar '"' :: v) = Text.beginsWith o p := by
  induction o generalizing p with
  | nil => rfl
  | cons c o ih =>
    obtain ⟨other, later⟩ := not_or.mp (mt List.mem_cons.mpr unquoted)
    cases p with
    | nil => simp [Text.beginsWith, Text.dropFront?, Ne.symm other]
    | cons d p =>
      have rest := ih later p
      rw [Text.beginsWith, Text.beginsWith] at rest ⊢
      rw [List.cons_append, Text.dropFront?, Text.dropFront?]
      split
      · exact rest
      · rfl

theorem operatorSize_front (p v : Text) : operatorSize? (p ++ .scalar '"' :: v) = operatorSize? p := by
  have unquoted : ∀ o ∈ operators, CodePoint.scalar '"' ∉ wording o := by decide
  rw [operatorSize?, operatorSize?, List.find?_congr fun o member => beginsWith_front (unquoted o member) p v]

theorem name_front (p v : Text) : name? (p ++ .scalar '"' :: v) = name? p := by
  have front : ∀ p : Text, (p ++ .scalar '"' :: v).takeWhile CodePoint.isWord = p.takeWhile CodePoint.isWord := by
    intro p
    induction p with
    | nil => exact List.takeWhile_cons_of_neg (by decide)
    | cons c p ih => rw [List.cons_append, List.takeWhile_cons, List.takeWhile_cons, ih]
  rw [name?, front, name?]

theorem newlineSize_two (c d : CodePoint) (t : Text) : newlineSize? (c :: d :: t) = newlineSize? [c, d] := by
  unfold newlineSize?
  split <;> split <;> simp_all

theorem newlineSize_front (p v : Text) : newlineSize? (p ++ .scalar '"' :: v) = newlineSize? p := by
  match p with
  | [] => rfl
  | [c] =>
    rw [List.singleton_append, newlineSize_two]
    unfold newlineSize?
    split <;> split <;> simp_all
  | c :: d :: p => rw [List.cons_append, List.cons_append, newlineSize_two, newlineSize_two c d p]

theorem rowJoin_front (p v : Text) : rowJoin? (p ++ .scalar '"' :: v) = rowJoin? p := by
  cases p with
  | nil => rfl
  | cons c p =>
    rw [List.cons_append]
    unfold rowJoin?
    split
    · rename_i t front
      obtain ⟨rfl, rfl⟩ := List.cons.inj front
      rw [newlineSize_front]
      rfl
    · rename_i other
      split
      · rename_i t front
        exact absurd (congrArg (· ++ .scalar '"' :: v) front) (other _)
      · rfl

theorem openingQuote_front (p v : Text) : openingQuote? (p ++ .scalar '"' :: v) = openingQuote? p ∨
    openingQuote? p = none ∧ openingQuote? (p ++ .scalar '"' :: v) = some (p.length, '"') := by
  have quote : isQuote (.scalar '"') = some '"' := rfl
  match p with
  | [] => exact .inr ⟨rfl, openingQuote_quote v⟩
  | [c] =>
    rw [List.singleton_append, openingQuote?.eq_def, openingQuote?.eq_def]
    cases first : isQuote c with
    | some q =>
      left
      simp only [first]
    | none =>
      simp only [first, quote]
      split
      · exact .inr ⟨trivial, rfl⟩
      · exact .inl rfl
  | [c, d] =>
    rw [List.cons_append, List.singleton_append, openingQuote?.eq_def, openingQuote?.eq_def]
    cases first : isQuote c with
    | some q =>
      left
      simp only [first]
    | none =>
      cases second : isQuote d with
      | some q =>
        left
        simp only [first, second]
      | none =>
        simp only [first, second, quote, Option.bind_some]
        split
        · exact .inr ⟨trivial, rfl⟩
        · exact .inl rfl
  | c :: d :: e :: p =>
    left
    rw [List.cons_append, List.cons_append, List.cons_append, openingQuote?.eq_def, openingQuote?.eq_def]
    cases first : isQuote c with
    | some q => simp only [first]
    | none => cases second : isQuote d <;> simp only [first, second]

/-- Whatever stands at a place, a search ends in front of it, or it does not end there. -/
def Settled {α : Type} (size : α → Nat) (place : Nat) (r r' : Option α) : Prop :=
  (∃ a, size a ≤ place ∧ r = some a ∧ r' = some a) ∨ r = none ∧ ∀ a ∈ r', place < size a

theorem Settled.map {α : Type} {size : α → Nat} {place k : Nat} {r r' : Option α} {f : α → α}
    (settled : Settled size place r r') (longer : ∀ a, size (f a) = size a + k) :
    Settled size (place + k) (r.map f) (r'.map f) := by
  rcases settled with ⟨a, short, rfl, rfl⟩ | ⟨rfl, long⟩
  · exact .inl ⟨f a, by rw [longer]; omega, rfl, rfl⟩
  · refine .inr ⟨rfl, fun b member => ?_⟩
    obtain ⟨a, found, rfl⟩ := Option.map_eq_some_iff.mp member
    rw [longer]
    have := long a found
    omega

theorem settled_found {α : Type} {size : α → Nat} {place : Nat} {a : α} (short : size a ≤ place) :
    Settled size place (some a) (some a) := .inl ⟨a, short, rfl, rfl⟩

theorem settled_none {α : Type} (size : α → Nat) (place : Nat) : Settled size place none none :=
  .inr ⟨rfl, fun a none => by cases none⟩

theorem stringEnd_positive {q : Char} {t : Text} : ∀ r ∈ stringEnd? q t, 0 < r.1 := by
  intro r found
  fun_induction stringEnd? q t generalizing r with
  | case1 | case3 | case7 => cases found
  | case2 | case4 | case5 | case8 =>
    cases found
    decide
  | case6 | case9 =>
    obtain ⟨⟨m, b'⟩, _, rfl⟩ := Option.map_eq_some_iff.mp found
    dsimp only
    omega

theorem stringEnd_front {q : Char} (quote : q = '\'' ∨ q = '"') (p v : Text) :
    Settled Prod.fst p.length (stringEnd? q p) (stringEnd? q (p ++ .scalar '"' :: v)) := by
  have unhidden : CodePoint.scalar q ≠ .scalar '\\' := by rcases quote with rfl | rfl <;> decide
  have inRow : CodePoint.scalar q ≠ RenderSource.newline := by rcases quote with rfl | rfl <;> decide
  fun_induction stringEnd? q p with
  | case1 => exact .inr ⟨rfl, stringEnd_positive⟩
  | case2 =>
    rw [List.singleton_append, stringEnd?, if_neg unhidden, if_neg inRow, if_pos rfl]
    exact settled_found (Nat.le_refl 1)
  | case3 c other =>
    refine .inr ⟨rfl, ?_⟩
    rw [List.singleton_append, stringEnd?]
    split
    · rw [if_neg (by decide), if_neg (by simp)]
      intro r found
      obtain ⟨r', _, rfl⟩ := Option.map_eq_some_iff.mp found
      exact Nat.lt_add_left r'.1 (Nat.lt_succ_self 1)
    · split
      · intro r none
        cases none
      · intro r found
        obtain ⟨r', later, rfl⟩ := Option.map_eq_some_iff.mp found
        exact Nat.succ_lt_succ (stringEnd_positive r' later)
  | case4 t =>
    rw [List.cons_append, List.cons_append, stringEnd?, if_pos rfl, if_pos rfl]
    exact settled_found (by simp)
  | case5 d t other paired =>
    cases t with
    | nil => cases paired.2
    | cons e t =>
      have paired' : d = .scalar '\r' ∧ (e :: t ++ .scalar '"' :: v).head? = some RenderSource.newline := paired
      rw [List.cons_append, List.cons_append, stringEnd?, if_pos rfl, if_neg other, if_pos paired']
      exact settled_found (by simp)
  | case6 d t other unpaired ih =>
    have unpaired' : ¬(d = .scalar '\r' ∧ (t ++ .scalar '"' :: v).head? = some RenderSource.newline) := by
      cases t with
      | nil => exact fun both => by cases both.2
      | cons e t => exact unpaired
    rw [List.cons_append, List.cons_append, stringEnd?, if_pos rfl, if_neg other, if_neg unpaired']
    exact ih.map (k := 2) fun _ => rfl
  | case7 d t shown =>
    rw [List.cons_append, List.cons_append, stringEnd?, if_neg shown, if_pos rfl]
    exact settled_none _ _
  | case8 d t =>
    rw [List.cons_append, List.cons_append, stringEnd?, if_neg unhidden, if_neg inRow, if_pos rfl]
    exact settled_found (by simp)
  | case9 c d t shown here other ih =>
    rw [List.cons_append, List.cons_append, stringEnd?, if_neg shown, if_neg here, if_neg other]
    exact ih.map fun _ => rfl

theorem closing_positive {mark : QuoteMark} {t : Text} : ∀ n ∈ closing? mark t, 0 < n := by
  intro n found
  fun_induction closing? mark t generalizing n with
  | case1 | case3 | case4 => cases found
  | case2 | case6 | case7 =>
    cases found
    decide
  | case5 | case8 | case9 =>
    obtain ⟨m, _, rfl⟩ := Option.map_eq_some_iff.mp found
    omega

theorem closing_front {mark : QuoteMark} (quote : mark.IsQuote) (p v : Text) :
    Settled id p.length (closing? mark p) (closing? mark (p ++ .scalar '"' :: v)) := by
  have unhidden : CodePoint.scalar mark.char ≠ .scalar '\\' := (quote.ne (by decide) (by decide)).symm
  fun_induction closing? mark p with
  | case1 => exact .inr ⟨rfl, closing_positive⟩
  | case2 c ends =>
    obtain ⟨rfl, single⟩ : c = .scalar mark.char ∧ (!mark.triple) = true := by simpa using ends
    rw [List.singleton_append, closing?, if_neg unhidden, if_pos rfl, if_pos single]
    exact settled_found (Nat.le_refl 1)
  | case3 c other =>
    have longer : ∀ k, ∀ n ∈ (closing? mark (.scalar '"' :: v)).map (· + (k + 1)), [c].length < n := by
      intro k n found
      obtain ⟨m, later, rfl⟩ := Option.map_eq_some_iff.mp found
      have := closing_positive m later
      rw [List.length_singleton]
      omega
    refine .inr ⟨rfl, ?_⟩
    rw [List.singleton_append, closing?]
    split
    · rw [if_neg (by decide)]
      intro n found
      obtain ⟨m, _, rfl⟩ := Option.map_eq_some_iff.mp found
      rw [List.length_singleton]
      exact Nat.lt_add_left m (by decide)
    · split
      · rename_i ends
        rw [if_neg (by simpa [ends] using other)]
        split
        · intro n found
          cases found
          exact (by decide : 1 < 3)
        · exact longer 0
      · exact longer 0
  | case4 t =>
    rw [List.cons_append, List.cons_append, closing?, if_pos rfl, if_pos rfl]
    exact settled_none _ _
  | case5 d t other ih =>
    rw [List.cons_append, List.cons_append, closing?, if_pos rfl, if_neg other]
    exact ih.map (k := 2) fun _ => rfl
  | case6 d t single shown =>
    rw [List.cons_append, List.cons_append, closing?, if_neg shown, if_pos rfl, if_pos single]
    exact settled_found (by simp)
  | case7 d t triple double shown =>
    obtain ⟨u, front⟩ := Text.beginsWith_iff.mp double
    have double' : Text.beginsWith [.scalar mark.char, .scalar mark.char] (d :: t ++ .scalar '"' :: v) = true :=
      Text.beginsWith_iff.mpr ⟨u ++ .scalar '"' :: v, by rw [front, List.append_assoc]⟩
    rw [List.cons_append] at double'
    rw [List.cons_append, List.cons_append, closing?, if_neg shown, if_pos rfl, if_neg triple, if_pos double']
    refine settled_found ?_
    rw [front]
    simp
  | case8 d t triple lone shown ih =>
    rw [List.cons_append, List.cons_append, closing?, if_neg shown, if_pos rfl, if_neg triple]
    split
    · rename_i double
      -- the second of three quotes stands at the end of the front
      obtain ⟨u, front⟩ := Text.beginsWith_iff.mp double
      cases t with
      | nil =>
        refine .inr ⟨?_, ?_⟩
        · rw [closing?, if_neg (by simp [triple])]
          rfl
        · intro n found
          cases found
          exact (by decide : 2 < 3)
      | cons e t =>
        obtain ⟨rfl, rest⟩ := List.cons.inj front
        obtain ⟨rfl, _⟩ := List.cons.inj rest
        exact absurd (Text.beginsWith_iff.mpr ⟨t, rfl⟩) lone
    · exact ih.map fun _ => rfl
  | case9 c d t shown other ih =>
    rw [List.cons_append, List.cons_append, closing?, if_neg shown, if_neg other]
    exact ih.map fun _ => rfl

def GoesBeyond (place : Nat) (t : Text) (l : Lexeme) : Prop :=
  ∀ row start s, ∀ n ∈ (Token.stride row start t s l).1, place < n

/-- What is found at the front of a text passes the place, if it is not what is found without the text from there. -/
def Ahead (place : Nat) (t : Text) (r r' : Option Lexeme) : Prop := r' = r ∨ ∃ l, r' = some l ∧ GoesBeyond place t l

theorem Ahead.or {place : Nat} {t : Text} {r r' u u' : Option Lexeme} (first : Ahead place t r r')
    (second : Ahead place t u u') : Ahead place t (r.or u) (r'.or u') := by
  rcases first with rfl | ⟨l, rfl, passes⟩
  · cases r' with
    | some l => exact .inl rfl
    | none => exact second
  · exact .inr ⟨l, rfl, passes⟩

theorem ahead_same {place : Nat} {t : Text} {r r' : Option Lexeme} (same : r' = r) : Ahead place t r r' := .inl same

theorem comment_front (p v : Text) :
    Ahead p.length (p ++ .scalar '"' :: v) (comment? p) (comment? (p ++ .scalar '"' :: v)) := by
  cases p with
  | nil => exact ahead_same rfl
  | cons c p =>
    by_cases signed : c = .scalar '#'
    · subst signed
      rw [List.cons_append, comment?, comment?, List.takeWhile_append]
      split
      · refine .inr ⟨_, rfl, fun row start s n far => ?_⟩
        cases far
        rw [size, List.takeWhile_cons_of_pos (by decide), List.length_append, List.length_cons, List.length_cons]
        omega
      · exact ahead_same rfl
    · have unsigned : ∀ t, comment? (c :: t) = none := by
        intro t
        unfold comment?
        split
        · rename_i front
          exact absurd (List.cons.inj front).1 signed
        · rfl
      exact ahead_same (by rw [List.cons_append, unsigned, unsigned])

theorem openingQuote_short {q : Char} (opens : openingQuote? p = some (n, q)) :
    n < p.length ∧ (q = '\'' ∨ q = '"') := by
  obtain ⟨_, c, u, rest, quote⟩ := openingQuote_quiet opens
  have length := congrArg List.length rest
  rw [List.length_drop, List.length_cons] at length
  exact ⟨by omega, (isQuote_some quote).2⟩

theorem tripleOpening_front (p v : Text) :
    Ahead p.length (p ++ .scalar '"' :: v) (tripleOpening? p) (tripleOpening? (p ++ .scalar '"' :: v)) := by
  have beyond : ∀ {n q}, p.length < n → GoesBeyond p.length (p ++ .scalar '"' :: v) (.opening n ⟨q, true⟩) := by
    intro n q long row start s m far
    simp only [Token.stride] at far
    split at far
    · cases far
      omega
    · cases far
  rcases openingQuote_front p v with same | ⟨missing, found⟩
  · rw [tripleOpening?, tripleOpening?, same]
    cases opens : openingQuote? p with
    | none => exact ahead_same rfl
    | some r =>
      obtain ⟨n, q⟩ := r
      obtain ⟨inside, _⟩ := openingQuote_short opens
      rw [Option.bind_some, Option.bind_some]
      dsimp only
      rw [List.drop_append_of_le_length (by omega)]
      by_cases triple : Text.beginsWith [.scalar q, .scalar q, .scalar q] (p.drop n ++ .scalar '"' :: v) = true
      · by_cases short : p.length < n + 3
        · rw [if_pos triple]
          exact .inr ⟨_, rfl, beyond short⟩
        · obtain ⟨u, front⟩ := Text.beginsWith_iff.mp triple
          have within : [.scalar q, .scalar q, .scalar q] <+: p.drop n :=
            List.prefix_of_prefix_length_le ⟨u, front.symm⟩ (List.prefix_append _ _)
              (by simp only [List.length_cons, List.length_nil, List.length_drop]; omega)
          obtain ⟨w, split⟩ := within
          rw [if_pos triple, if_pos (Text.beginsWith_iff.mpr ⟨w, split.symm⟩)]
          exact ahead_same rfl
      · have single : ¬Text.beginsWith [.scalar q, .scalar q, .scalar q] (p.drop n) = true := by
          intro front
          obtain ⟨u, split⟩ := Text.beginsWith_iff.mp front
          exact triple (Text.beginsWith_iff.mpr ⟨u ++ .scalar '"' :: v, by rw [split, List.append_assoc]⟩)
        rw [if_neg triple, if_neg single]
        exact ahead_same rfl
  · rw [tripleOpening?, tripleOpening?, missing, found, Option.bind_some]
    dsimp only
    split
    · exact .inr ⟨_, rfl, beyond (by omega)⟩
    · exact ahead_same rfl

theorem string_front (p v : Text) :
    Ahead p.length (p ++ .scalar '"' :: v) (string? p) (string? (p ++ .scalar '"' :: v)) := by
  -- a string that is found with the quote only goes beyond it, whether it ends in its row or not
  have beyond : ∀ (n k : Nat) (b : Bool) (q : Char), p.length < n + 1 + k → GoesBeyond p.length (p ++ .scalar '"' :: v)
      (if b then .brokenString (n + 1 + k) ⟨q, false⟩ else .string (n + 1 + k)) := by
    intro n k b q long row start s m far
    cases b with
    | true => cases far
    | false =>
      cases far
      exact long
  rcases openingQuote_front p v with same | ⟨missing, found⟩
  · rw [string?, string?, same]
    cases opens : openingQuote? p with
    | none => exact ahead_same rfl
    | some r =>
      obtain ⟨n, q⟩ := r
      obtain ⟨inside, quote⟩ := openingQuote_short opens
      rw [Option.bind_some, Option.bind_some]
      dsimp only
      rw [List.drop_append_of_le_length inside]
      rcases stringEnd_front quote (p.drop (n + 1)) v with ⟨r, _, ends, ends'⟩ | ⟨open_, ends⟩
      · rw [ends, ends']
        exact ahead_same rfl
      · rw [open_]
        cases later : stringEnd? q (p.drop (n + 1) ++ .scalar '"' :: v) with
        | none => exact ahead_same rfl
        | some r =>
          have long := ends r later
          rw [List.length_drop] at long
          exact .inr ⟨_, rfl, beyond n r.1 r.2 q (by omega)⟩
  · rw [string?, string?, missing, found, Option.bind_some]
    dsimp only
    cases stringEnd? '"' ((p ++ .scalar '"' :: v).drop (p.length + 1)) with
    | none => exact ahead_same rfl
    | some r => exact .inr ⟨_, rfl, beyond p.length r.1 r.2 '"' (by omega)⟩

theorem at_front (some : p ≠ []) (v : Text) :
    Ahead p.length (p ++ .scalar '"' :: v) (at? p) (at? (p ++ .scalar '"' :: v)) := by
  have full : (p ++ .scalar '"' :: v).isEmpty = false := by simp
  have full' : p.isEmpty = false := by simpa using some
  rw [at?, at?, full, full', if_neg Bool.false_ne_true, if_neg Bool.false_ne_true]
  refine (ahead_same (rowJoin_front p v)).or ((comment_front p v).or ((tripleOpening_front p v).or ?_))
  refine (ahead_same (by rw [numberSize_front])).or ((ahead_same (by rw [newlineSize_front])).or ?_)
  exact (ahead_same (by rw [operatorSize_front])).or ((string_front p v).or (ahead_same (name_front p v)))

/-- How a row begins that has a double quote behind its front. -/
inductive Fronted (p v : Text) : Prop
  | beyond {l : Lexeme} (found : at? (p ++ .scalar '"' :: v) = some l)
      (passes : GoesBeyond p.length (p ++ .scalar '"' :: v) l)
  | stray (missing : at? (p ++ .scalar '"' :: v) = none) (missing' : at? p = none)
  | within {l : Lexeme} (found : at? (p ++ .scalar '"' :: v) = some l) (found' : at? p = some l)
      (same : ∀ row start s, ∃ n s', n ≤ p.length ∧ Token.stride row start p s l = (some n, s') ∧
        Token.stride row start (p ++ .scalar '"' :: v) s l = (some n, s'))

/-- A lexeme at the front of both texts ends in front of the quote, or it does not end in the row. -/
theorem stride_front {l : Lexeme} (found : at? (p ++ .scalar '"' :: v) = some l) (found' : at? p = some l) :
    Fronted p v := by
  have whole : l.size ≤ p.length → (∀ row start s, Token.stride row start p s l = (some l.size, s)) →
      (∀ row start s, Token.stride row start (p ++ .scalar '"' :: v) s l = (some l.size, s)) → Fronted p v :=
    fun short here there => .within found found' fun row start s =>
      ⟨l.size, s, short, here row start s, there row start s⟩
  cases at_begins found' with
  | rowJoin | rowEnd | brokenString => exact .beyond found fun row start s n far => by cases far
  | comment front =>
    refine whole ?_ (fun _ _ _ => rfl) fun _ _ _ => rfl
    rw [size, front, List.length_cons, Nat.add_comm]
    exact Nat.succ_le_succ (List.takeWhile_prefix _).length_le
  | @opening n q quoted double =>
    obtain ⟨c, quote, _⟩ := quoted.front
    obtain ⟨u, second⟩ := Region.twice_iff.mp double
    have length := congrArg List.length second
    rw [List.length_drop] at length
    simp only [List.length_cons] at length
    have behind : (p ++ .scalar '"' :: v).drop (n + 3) = p.drop (n + 3) ++ .scalar '"' :: v :=
      List.drop_append_of_le_length (by omega)
    rcases @closing_front ⟨q, true⟩ (isQuote_some quote).2 (p.drop (n + 3)) v with
      ⟨k, short, closed, closed'⟩ | ⟨_, long⟩
    · rw [List.length_drop] at short
      refine .within found found' fun row start s => ⟨n + 3 + k, s, ?_, ?_, ?_⟩
      · simp only [id] at short
        omega
      · simp only [Token.stride, closed]
      · simp only [Token.stride, behind, closed']
    · refine .beyond found fun row start s m far => ?_
      simp only [Token.stride, behind] at far
      split at far
      · rename_i k closed
        have := long k closed
        rw [List.length_drop] at this
        cases far
        simp only [id] at this
        omega
      · cases far
  | @string n k q quoted single closed =>
    obtain ⟨c, quote, _⟩ := quoted.front
    refine whole ?_ (fun _ _ _ => rfl) fun _ _ _ => rfl
    have positive := stringEnd_positive _ closed
    rcases stringEnd_front (isQuote_some quote).2 (p.drop (n + 1)) v with ⟨r, short, ends, _⟩ | ⟨missing, _⟩
    · rw [closed] at ends
      cases ends
      rw [List.length_drop] at short
      rw [size]
      dsimp only at positive short
      omega
    · rw [closed] at missing
      cases missing
  | number =>
    cases at_begins found with
    | number quiet => exact whole quiet.front (fun _ _ _ => rfl) fun _ _ _ => rfl
  | newline =>
    cases at_begins found with
    | newline quiet => exact whole quiet.front (fun _ _ _ => rfl) fun _ _ _ => rfl
  | name =>
    cases at_begins found with
    | name quiet => exact whole quiet.front (fun _ _ _ => rfl) fun _ _ _ => rfl
  | @operator n =>
    cases at_begins found with
    | operator quiet =>
      refine .within found found' fun row start s => ⟨n, s.afterOperator (p.take n), quiet.front, rfl, ?_⟩
      rw [Token.stride, List.take_append_of_le_length quiet.front]

theorem fronted (some : p ≠ []) (v : Text) : Fronted p v := by
  rcases at_front some v with same | ⟨l, found, passes⟩
  · cases found : at? p with
    | none => exact .stray (same.trans found) found
    | some l => exact stride_front (same.trans found) found
  · exact .beyond found passes

end RenderSource.Lexeme
