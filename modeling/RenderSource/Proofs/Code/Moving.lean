import RenderSource.Proofs.Code.InsideExact
/-!
Scans of rows that stand further to the right. Blanks in front of rows move the columns of tokens and of blocks,
and they may be strays in front of another stray, but they change nothing else.
-/
namespace RenderSource

namespace Text

/-- A text whose only blanks are spaces and newlines. -/
def Spaced (t : Text) : Prop := ∀ c ∈ t, c.isBlank = true → c = .scalar ' ' ∨ c = newline

instance (t : Text) : Decidable t.Spaced := inferInstanceAs (Decidable (∀ c ∈ t, _))

theorem Spaced.tail {c : CodePoint} {t : Text} (spaced : Spaced (c :: t)) : t.Spaced :=
  fun d member => spaced d (List.mem_cons_of_mem c member)

theorem Spaced.ended {t : Text} (spaced : t.Spaced) : Spaced (t ++ [newline]) := by
  intro c member blank
  rcases List.mem_append.mp member with inRow | ends
  · exact spaced c inRow blank
  · exact .inr (List.mem_singleton.mp ends)

theorem Spaced.ne {c d : CodePoint} {t : Text} (spaced : Spaced (c :: t)) (blank : d.isBlank = true)
    (other : ¬(d = .scalar ' ' ∨ d = newline)) : c ≠ d := by
  rintro rfl
  exact other (spaced c (by simp) blank)

end Text

namespace Token

def isString (k : Token) : Bool := !k.isBroken && (Lexeme.openingQuote? k.text).isSome

def isStray (k : Token) : Bool := k.isBroken && k.startRow == k.endRow

def unplaced (k : Token) : Token := { k with startColumn := 0, endColumn := 0 }

/-- Tokens without strays and without columns. -/
def seen (ts : List Token) : List Token := (ts.filter fun k => !k.isStray).map unplaced

theorem seen_append (ts us : List Token) : seen (ts ++ us) = seen ts ++ seen us := by
  rw [seen, List.filter_append, List.map_append, seen, seen]

theorem seen_stray {k : Token} (stray : k.isStray = true) (ts : List Token) : seen (k :: ts) = seen ts := by
  rw [seen, List.filter_cons_of_neg (by simp [stray]), seen]

theorem seen_kept {k : Token} (kept : k.isStray = false) (ts : List Token) :
    seen (k :: ts) = k.unplaced :: seen ts := by
  rw [seen, List.filter_cons_of_pos (by simp [kept]), List.map_cons, seen]

theorem seen_cons {k k' : Token} (same : k'.unplaced = k.unplaced) {ts ts' : List Token}
    (later : seen ts' = seen ts) : seen (k' :: ts') = seen (k :: ts) := by
  have stray : k'.isStray = k.isStray := by
    have broken := congrArg Token.isBroken same
    have start := congrArg Token.startRow same
    have last := congrArg Token.endRow same
    simp only [unplaced] at broken start last
    simp only [isStray, broken, start, last]
  cases kept : k.isStray with
  | true => rw [seen_stray (stray.trans kept), seen_stray kept, later]
  | false => rw [seen_kept (stray.trans kept), seen_kept kept, same, later]

end Token

def OpenString.unplaced (o : OpenString) : OpenString := { o with column := 0 }

namespace ScanState

/-- A state, and the one that rows lead to which stand `k` columns further right. Around them is the outermost
block, which they have not moved. -/
structure Moved (k : Nat) (s s' : ScanState) : Prop where
  opened : s'.opened.map OpenString.unplaced = s.opened.map OpenString.unplaced
  continued : s'.continued = s.continued
  brackets : s'.brackets = s.brackets
  joined : s'.joined = s.joined
  blocks : s.indents ≠ []
  indents : s'.indents = s.indents.map (· + k) ++ if k = 0 then [] else [0]

theorem dropWhile_moved {k column : Nat} {columns : List Nat} (more : List Nat) (member : column ∈ columns) :
    (columns.map (· + k) ++ more).dropWhile (fun c => decide (column + k < c)) =
      (columns.dropWhile fun c => decide (column < c)).map (· + k) ++ more := by
  induction columns with
  | nil => cases member
  | cons c columns ih =>
    rw [List.map_cons, List.cons_append, List.dropWhile_cons, List.dropWhile_cons]
    by_cases deeper : column < c
    · have other : column ≠ c := by omega
      rw [if_pos (by simpa using deeper), if_pos (by simpa using deeper)]
      exact ih ((List.mem_cons.mp member).resolve_left other)
    · rw [if_neg (by simpa using deeper), if_neg (by simpa using deeper)]
      rfl

namespace Moved

variable {k : Nat} {s s' : ScanState}

theorem afterOperator (moved : Moved k s s') (t : Text) : Moved k (s.afterOperator t) (s'.afterOperator t) := by
  unfold ScanState.afterOperator
  split
  · exact { moved with brackets := congrArg (· + 1) moved.brackets }
  · split
    · exact { moved with brackets := congrArg (· - 1) moved.brackets }
    · exact moved

theorem open_string (moved : Moved k s s') {o o' : OpenString} (same : o'.unplaced = o.unplaced) :
    Moved k { s with opened := some o } { s' with opened := some o' } :=
  { moved with opened := congrArg some same }

theorem string (moved : Moved k s s') {o : OpenString} (opened : s.opened = some o) :
    ∃ o', s'.opened = some o' ∧ o'.unplaced = o.unplaced := by
  have same := moved.opened
  rw [opened] at same
  obtain ⟨o', opened', unplaced⟩ := Option.map_eq_some_iff.mp same
  exact ⟨o', opened', unplaced⟩

theorem closed (moved : Moved k s s') (opened : s.opened = none) : s'.opened = none := by
  have same := moved.opened
  rw [opened] at same
  exact Option.map_eq_none_iff.mp same

theorem top (moved : Moved k s s') : s'.indents.headD 0 = s.indents.headD 0 + k := by
  obtain ⟨column, rest, split⟩ := List.exists_cons_of_ne_nil moved.blocks
  rw [moved.indents, split]
  rfl

theorem mem_indents (moved : Moved k s s') {column : Nat} (member : column ∈ s.indents) :
    column + k ∈ s'.indents := by
  rw [moved.indents, List.mem_append]
  exact .inl (List.mem_map_of_mem member)

theorem enter (moved : Moved k s s') {column : Nat} {s₁ : ScanState} (entered : s.enter? column = some s₁) :
    ∃ s₁', s'.enter? (column + k) = some s₁' ∧ Moved k s₁ s₁' := by
  unfold enter? at entered ⊢
  rw [moved.top]
  dsimp only at entered ⊢
  split at entered
  · cases entered
    rw [if_pos (by omega)]
    refine ⟨_, rfl, { moved with blocks := List.cons_ne_nil _ _, indents := ?_ }⟩
    dsimp only
    rw [moved.indents]
    rfl
  · split at entered
    · rename_i member
      cases entered
      rw [if_neg (by omega), if_pos (moved.mem_indents member)]
      refine ⟨_, rfl, { moved with blocks := ?_, indents := ?_ }⟩
      · intro none
        have before := List.dropWhile_eq_nil_iff.mp none column member
        simp at before
      · dsimp only
        rw [moved.indents, dropWhile_moved _ member]
    · cases entered

end Moved

end ScanState

namespace Token

open Lexeme ScanState

/-- How far a row is read by the lexeme at its front, if it is read on behind it, and the state that is left. -/
def stride (row start : Nat) (t : Text) (s : ScanState) : Lexeme → Option Nat × ScanState
  | .rowEnd => (none, s)
  | .rowJoin _ => (none, { s with joined := true })
  | .opening n mark => match closing? mark (t.drop n) with
    | some k => (some (n + k), s)
    | none => (none, { s with opened := some ⟨mark, row, start, t⟩ })
  | .brokenString _ mark => (none, { s with opened := some ⟨mark, row, start, t⟩, continued := true })
  | .operator n => (some n, s.afterOperator (t.take n))
  | l => (some l.size, s)

def proceed (row start : Nat) (t : Text) : Option Nat × ScanState → List Token × ScanState
  | (none, s) => ([], s)
  | (some n, s) =>
    let (ts, s') := scanRow row (start + n) (t.drop n) s
    (⟨t.take n, row, start, row, start + n, false⟩ :: ts, s')

theorem stride_positive {row start n : Nat} {t : Text} {s : ScanState} {l : Lexeme} (found : at? t = some l)
    (far : (stride row start t s l).1 = some n) : 0 < n := by
  cases at_begins found with
  | rowJoin | rowEnd | brokenString => cases far
  | comment | string =>
    cases far
    rw [size]
    omega
  | number _ some | newline _ some | operator _ some | name _ some =>
    cases far
    exact some
  | opening =>
    simp only [stride] at far
    split at far
    · cases far
      omega
    · cases far

theorem stride_moved {k row start start' : Nat} {t : Text} {s s' : ScanState} (moved : Moved k s s') (l : Lexeme) :
    (stride row start' t s' l).1 = (stride row start t s l).1 ∧
      Moved k (stride row start t s l).2 (stride row start' t s' l).2 := by
  cases l with
  | rowJoin n => exact ⟨rfl, { moved with joined := rfl }⟩
  | brokenString n mark => exact ⟨rfl, { moved.open_string rfl with continued := rfl }⟩
  | operator n => exact ⟨rfl, moved.afterOperator _⟩
  | opening n mark =>
    simp only [stride]
    cases closing? mark (t.drop n) with
    | some m => exact ⟨rfl, moved⟩
    | none => exact ⟨rfl, moved.open_string rfl⟩
  | _ => exact ⟨rfl, moved⟩

section

variable {row column gap : Nat} {c : CodePoint} {u : Text} {s : ScanState}
  (blanks : ((c :: u).takeWhile isBlankInRow).length = gap)

include blanks

theorem scanRow_stray (missing : at? ((c :: u).drop gap) = none) :
    scanRow row column (c :: u) s =
      (⟨[c], row, column, row, column + 1, true⟩ :: (scanRow row (column + 1) u s).1,
        (scanRow row (column + 1) u s).2) := by
  rw [scanRow]
  simp only [blanks, missing]

theorem scanRow_lead {l : Lexeme} (found : at? ((c :: u).drop gap) = some l) :
    scanRow row column (c :: u) s =
      proceed row (column + gap) ((c :: u).drop gap) (stride row (column + gap) ((c :: u).drop gap) s l) := by
  have behind : ∀ {n : Nat}, 0 < n → u.drop (gap + n - 1) = ((c :: u).drop gap).drop n := drop_behind c u
  have positive : ∀ n, (stride row (column + gap) ((c :: u).drop gap) s l).1 = some n → 0 < n :=
    fun n far => stride_positive found far
  rw [scanRow]
  simp only [blanks, found]
  cases l with
  | rowEnd | rowJoin | brokenString => rfl
  | opening n mark =>
    simp only [stride] at positive ⊢
    cases closed : closing? mark (((c :: u).drop gap).drop n) with
    | none => rfl
    | some m =>
      rw [closed] at positive
      dsimp only
      rw [behind (positive _ rfl)]
      rfl
  | _ =>
    dsimp only
    rw [behind (positive _ rfl)]
    rfl

end

/-- A row in which a token begins nowhere but a few columns further right is read to the same end. -/
theorem scanRow_moved {k row column column' : Nat} {t : Text} {s s' : ScanState} (moved : Moved k s s') :
    seen (scanRow row column' t s').1 = seen (scanRow row column t s).1 ∧
      Moved k (scanRow row column t s).2 (scanRow row column' t s').2 := by
  -- A lexeme takes several code points at once, so the induction is on the length of what is left.
  induction length : t.length using Nat.strongRecOn generalizing column column' t s s' with
  | ind n ih =>
    cases t with
    | nil =>
      rw [scanRow, scanRow]
      exact ⟨rfl, moved⟩
    | cons c u =>
      rw [List.length_cons] at length
      cases found : at? ((c :: u).drop ((c :: u).takeWhile isBlankInRow).length) with
      | none =>
        obtain ⟨tokens, state⟩ := @ih u.length (by omega) (column + 1) (column' + 1) u s s' moved rfl
        rw [scanRow_stray rfl found, scanRow_stray rfl found]
        refine ⟨?_, state⟩
        rw [seen_stray (by simp [isStray]), seen_stray (by simp [isStray]), tokens]
      | some l =>
        rw [scanRow_lead rfl found, scanRow_lead rfl found]
        have short : ((c :: u).drop ((c :: u).takeWhile isBlankInRow).length).length ≤ n := by
          rw [List.length_drop, List.length_cons]
          omega
        generalize ((c :: u).takeWhile isBlankInRow).length = gap at *
        generalize (c :: u).drop gap = rest at *
        have moved' := @stride_moved k row (column + gap) (column' + gap) rest s s' moved l
        have positive := fun m => @stride_positive row (column + gap) m rest s l found
        generalize stride row (column + gap) rest s l = behind at *
        generalize stride row (column' + gap) rest s' l = behind' at *
        obtain ⟨far, s₁⟩ := behind
        obtain ⟨far', s₁'⟩ := behind'
        obtain ⟨rfl, moved'⟩ := moved'
        cases far' with
        | none => exact ⟨rfl, moved'⟩
        | some m =>
          have less : (rest.drop m).length < n := by
            have := positive m rfl
            rw [List.length_drop]
            omega
          obtain ⟨tokens, state⟩ := @ih _ less (column + gap + m) (column' + gap + m) _ _ _ moved' rfl
          exact ⟨seen_cons rfl tokens, state⟩

/-- A blank in front of a row is passed over. In front of a stray it is a stray of its own. -/
theorem scanRow_blank {row column : Nat} {u : Text} {s : ScanState} :
    seen (scanRow row column (.scalar ' ' :: u) s).1 = seen (scanRow row (column + 1) u s).1 ∧
      (scanRow row column (.scalar ' ' :: u) s).2 = (scanRow row (column + 1) u s).2 := by
  cases u with
  | nil =>
    rw [scanRow_lead (l := .rowEnd) rfl rfl, scanRow]
    exact ⟨rfl, rfl⟩
  | cons c u =>
    have gap : ((.scalar ' ' :: c :: u).takeWhile isBlankInRow).length =
        ((c :: u).takeWhile isBlankInRow).length + 1 := by
      rw [List.takeWhile_cons_of_pos rfl, List.length_cons]
    cases found : at? ((c :: u).drop ((c :: u).takeWhile isBlankInRow).length) with
    | none =>
      rw [scanRow_stray gap (by rw [List.drop_succ_cons]; exact found)]
      exact ⟨seen_stray (by simp [isStray]) _, rfl⟩
    | some l =>
      have start : column + (((c :: u).takeWhile isBlankInRow).length + 1) =
          column + 1 + ((c :: u).takeWhile isBlankInRow).length := by omega
      rw [scanRow_lead gap (by rw [List.drop_succ_cons]; exact found), scanRow_lead rfl found, List.drop_succ_cons,
        start]
      exact ⟨rfl, rfl⟩

theorem scanRow_blanks (n : Nat) {row column : Nat} {t : Text} {s : ScanState} :
    seen (scanRow row column (Text.blanks n ++ t) s).1 = seen (scanRow row (column + n) t s).1 ∧
      (scanRow row column (Text.blanks n ++ t) s).2 = (scanRow row (column + n) t s).2 := by
  induction n generalizing column with
  | zero => exact ⟨rfl, rfl⟩
  | succ n ih =>
    obtain ⟨tokens, state⟩ := @scanRow_blank row column (Text.blanks n ++ t) s
    obtain ⟨tokens', state'⟩ := @ih (column + 1)
    rw [Nat.add_right_comm, Nat.add_assoc] at tokens' state'
    exact ⟨tokens.trans tokens', state.trans state'⟩

theorem scanRow_right {k n m row : Nat} {t : Text} {s s' : ScanState} (moved : Moved k s s') :
    seen (scanRow row 0 (Text.blanks n ++ t) s').1 = seen (scanRow row 0 (Text.blanks m ++ t) s).1 ∧
      Moved k (scanRow row 0 (Text.blanks m ++ t) s).2 (scanRow row 0 (Text.blanks n ++ t) s').2 := by
  obtain ⟨tokens, state⟩ := @scanRow_blanks n row 0 t s'
  obtain ⟨tokens', state'⟩ := @scanRow_blanks m row 0 t s
  obtain ⟨same, moved'⟩ := @scanRow_moved k row (0 + m) (0 + n) t s s' moved
  rw [tokens, tokens', state, state']
  exact ⟨same, moved'⟩

theorem indentation_blanks (n column count : Nat) (t : Text) :
    indentation column count (Text.blanks n ++ t) = indentation (column + n) (count + n) t := by
  induction n generalizing column count with
  | zero => rfl
  | succ n ih =>
    have front : Text.blanks (n + 1) ++ t = .scalar ' ' :: (Text.blanks n ++ t) := rfl
    rw [front, indentation, if_pos rfl, ih]
    congr 1 <;> omega

theorem indentation_moved {t : Text} (spaced : t.Spaced) (k m column count : Nat) :
    indentation (column + k) (count + m) t =
      ((indentation column count t).1 + k, (indentation column count t).2 + m) := by
  induction t generalizing column count with
  | nil => rw [indentation, indentation]
  | cons c t ih =>
    have later := ih spaced.tail (column + 1) (count + 1)
    rw [Nat.add_right_comm column, Nat.add_right_comm count] at later
    rw [indentation, indentation]
    split
    · exact later
    · have tab : c ≠ .scalar '\t' := spaced.ne (by decide) (by decide)
      have feed : c ≠ .scalar '\x0c' := spaced.ne (by decide) (by decide)
      rw [if_neg tab, if_neg feed, if_neg tab, if_neg feed]

structure Alongside (k : Nat) (r r' : List Token × Option ScanState) : Prop where
  tokens : seen r'.1 = seen r.1
  states : Option.Rel (Moved k) r.2 r'.2

variable {k row : Nat} {t : Text} {s s' : ScanState}

theorem scanStatement_moved (moved : Moved k s s') (spaced : t.Spaced) (fresh : s.opened = none)
    (straight : s.brackets = 0) (apart : s.joined = false) (placed : misaligned t s = false) :
    Alongside k (scanStatement row t s) (scanStatement row (Text.blanks k ++ t) s') := by
  have blanks : indentation 0 0 (Text.blanks k ++ t) = ((indentation 0 0 t).1 + k, (indentation 0 0 t).2 + k) := by
    rw [indentation_blanks, indentation_moved spaced]
  unfold misaligned at placed
  rw [fresh, straight, apart] at placed
  unfold scanStatement
  rw [blanks]
  generalize indentation 0 0 t = front at placed ⊢
  obtain ⟨column, count⟩ := front
  have behind : (Text.blanks k ++ t).drop (count + k) = t.drop count := by
    have length : (Text.blanks k).length = k := List.length_replicate
    rw [Nat.add_comm, List.drop_append, length, Nat.add_sub_cancel_left, List.drop_of_length_le (by omega)]
    rfl
  dsimp only at placed ⊢
  rw [behind]
  cases rest : t.drop count with
  | nil => exact ⟨rfl, .none⟩
  | cons c u =>
    rw [rest] at placed
    dsimp only at placed ⊢
    split
    · exact ⟨seen_cons rfl rfl, .some moved⟩
    · split
      · exact ⟨rfl, .some moved⟩
      · cases entered : s.enter? column with
        | none => simp_all
        | some s₁ =>
          obtain ⟨s₁', entered', moved'⟩ := moved.enter entered
          rw [entered']
          obtain ⟨tokens, state⟩ := @scanRow_moved k row count (count + k) (c :: u) s₁ s₁' moved'
          exact ⟨tokens, .some state⟩

theorem scanString_moved {o o' : OpenString} (moved : Moved k s s') (same : o'.unplaced = o.unplaced) :
    seen (scanString row t o' s').1 = seen (scanString row t o s).1 ∧
      Moved k (scanString row t o s).2 (scanString row t o' s').2 := by
  obtain ⟨mark, start, column, text⟩ := o
  obtain ⟨mark', start', column', text'⟩ := o'
  cases same
  unfold scanString
  dsimp only
  cases closing? mark t with
  | some n =>
    have inner : Moved k { s with opened := none, continued := false } { s' with opened := none, continued := false } :=
      { moved with opened := rfl, continued := rfl }
    obtain ⟨tokens, state⟩ := @scanRow_moved k row n n (t.drop n) _ _ inner
    exact ⟨seen_cons rfl tokens, state⟩
  | none =>
    have goesOn : (s'.continued && !endsJoined t) = (s.continued && !endsJoined t) := by rw [moved.continued]
    dsimp only
    rw [goesOn]
    split
    · refine ⟨?_, { moved with opened := rfl }⟩
      apply seen_cons
      · rfl
      · rfl
    · exact ⟨rfl, moved.open_string rfl⟩

theorem scanOne_string {o : OpenString} (opened : s.opened = some o) :
    scanOne row t s = ((scanString row t o s).1, some (scanString row t o s).2) := by
  rw [scanOne, opened]

theorem scanOne_statement (fresh : s.opened = none) (straight : s.brackets = 0) (apart : s.joined = false) :
    scanOne row t s = scanStatement row t s := by
  rw [scanOne, fresh, straight, apart]
  rfl

theorem scanOne_onward (fresh : s.opened = none) (begins : ¬(s.brackets = 0 ∧ s.joined = false)) :
    scanOne row t s = ((scanRow row 0 t { s with joined := false }).1,
      some (scanRow row 0 t { s with joined := false }).2) := by
  have inside : (s.brackets = 0 && !s.joined) = false := by simpa using begins
  rw [scanOne, fresh]
  dsimp only
  rw [if_neg (by rw [inside]; exact Bool.false_ne_true)]

theorem scanOne_onward_moved (n m : Nat) (moved : Moved k s s') (fresh : s.opened = none)
    (begins : ¬(s.brackets = 0 ∧ s.joined = false)) :
    Alongside k (scanOne row (Text.blanks m ++ t) s) (scanOne row (Text.blanks n ++ t) s') := by
  have begins' : ¬(s'.brackets = 0 ∧ s'.joined = false) := by rwa [moved.brackets, moved.joined]
  have inner : Moved k { s with joined := false } { s' with joined := false } := { moved with joined := rfl }
  obtain ⟨tokens, state⟩ := @scanRow_right k n m row t _ _ inner
  rw [scanOne_onward fresh begins, scanOne_onward (moved.closed fresh) begins']
  exact ⟨tokens, .some state⟩

theorem scanOne_inside (moved : Moved k s s') {o : OpenString} (opened : s.opened = some o) :
    Alongside k (scanOne row t s) (scanOne row t s') := by
  obtain ⟨o', opened', same⟩ := moved.string opened
  obtain ⟨tokens, state⟩ := @scanString_moved k row t s s' o o' moved same
  rw [scanOne_string opened, scanOne_string opened']
  exact ⟨tokens, .some state⟩

theorem scanOne_right (moved : Moved k s s') (fresh : s.opened = none) (spaced : t.Spaced)
    (placed : misaligned t s = false) : Alongside k (scanOne row t s) (scanOne row (Text.blanks k ++ t) s') := by
  have fresh' := moved.closed fresh
  by_cases begins : s.brackets = 0 ∧ s.joined = false
  · rw [scanOne_statement fresh begins.1 begins.2, scanOne_statement fresh' (moved.brackets.trans begins.1)
      (moved.joined.trans begins.2)]
    exact scanStatement_moved moved spaced fresh begins.1 begins.2 placed
  · exact scanOne_onward_moved k 0 moved fresh begins

theorem scanStatement_blank (n : Nat) (s : ScanState) :
    scanStatement row (Text.blanks n ++ [RenderSource.newline]) s = ([], some s) := by
  have front : indentation 0 0 (Text.blanks n ++ [RenderSource.newline]) = (n, n) := by
    rw [indentation_blanks, Nat.zero_add]
    rfl
  have behind : (Text.blanks n ++ [RenderSource.newline]).drop n = [RenderSource.newline] :=
    List.drop_left' List.length_replicate
  rw [scanStatement, front]
  dsimp only
  rw [behind]
  rfl

theorem scanStatement_end (n : Nat) (s : ScanState) : scanStatement row (Text.blanks n) s = ([], none) := by
  have front := indentation_blanks n 0 0 []
  rw [List.append_nil, Nat.zero_add, indentation] at front
  have behind : (Text.blanks n).drop n = [] := List.drop_of_length_le (Nat.le_of_eq List.length_replicate)
  rw [scanStatement, front]
  dsimp only
  rw [behind]

theorem scanOne_blank (n : Nat) (moved : Moved k s s') (fresh : s.opened = none) :
    Alongside k (scanOne row (Text.blanks n ++ [RenderSource.newline]) s) (scanOne row [RenderSource.newline] s') := by
  have fresh' := moved.closed fresh
  by_cases begins : s.brackets = 0 ∧ s.joined = false
  · rw [scanOne_statement fresh begins.1 begins.2, scanOne_statement fresh' (moved.brackets.trans begins.1)
      (moved.joined.trans begins.2), scanStatement_blank]
    rw [show [RenderSource.newline] = Text.blanks 0 ++ [RenderSource.newline] from rfl, scanStatement_blank]
    exact ⟨rfl, .some moved⟩
  · exact scanOne_onward_moved 0 n moved fresh begins

theorem scanOne_end (n : Nat) (fresh : s.opened = none) : seen (scanOne row (Text.blanks n) s).1 = [] := by
  by_cases begins : s.brackets = 0 ∧ s.joined = false
  · rw [scanOne_statement fresh begins.1 begins.2, scanStatement_end]
    rfl
  · have passed := (@scanRow_blanks n row 0 [] { s with joined := false }).1
    rw [List.append_nil, scanRow] at passed
    rw [scanOne_onward fresh begins, passed]
    rfl

end Token

end RenderSource
