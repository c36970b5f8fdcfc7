import RenderSource.Code.Lexeme
/-!
Tokens of generated source with their places. The source is read row by row: a string that is open
at the end of a row goes on in the next, and at the start of a statement the blanks in front say how
deep it stands. A source that cannot be read on keeps the tokens found so far.
-/
namespace RenderSource

/-- A piece of source; rows count from 1, columns from 0, and the end is exclusive. -/
structure Token where
  text : Text
  startRow : Nat
  startColumn : Nat
  endRow : Nat
  endColumn : Nat
  /-- A stray code point, or a string that breaks off at the end of a row. -/
  isBroken : Bool := false
  deriving DecidableEq, Repr

structure OpenString where
  mark : QuoteMark
  row : Nat
  column : Nat
  text : Text
  deriving DecidableEq, Repr

structure ScanState where
  opened : Option OpenString := none
  /-- A single-quoted string has been continued and no open string has been closed since. -/
  continued : Bool := false
  /-- Opening brackets less closing ones. -/
  brackets : Int := 0
  /-- The row before ended in a backslash. -/
  joined : Bool := false
  /-- Columns of the blocks around, the innermost first. -/
  indents : List Nat := [0]
  deriving DecidableEq, Repr

namespace ScanState

def afterOperator (s : ScanState) (t : Text) : ScanState :=
  if t = wording "(" ∨ t = wording "[" ∨ t = wording "\x7b" then
    { s with brackets := s.brackets + 1 }
  else if t = wording ")" ∨ t = wording "]" ∨ t = wording "\x7d" then
    { s with brackets := s.brackets - 1 }
  else s

/-- The blocks that remain around a statement at `column`. A column between two blocks is none. -/
def enter? (s : ScanState) (column : Nat) : Option ScanState :=
  let top := s.indents.headD 0
  if top < column then some { s with indents := column :: s.indents }
  else if column ∈ s.indents then
    some { s with indents := s.indents.dropWhile fun c => decide (column < c) }
  else none

end ScanState

namespace Token

def isBlankInRow (c : CodePoint) : Bool :=
  c = .scalar ' ' || c = .scalar '\x0c' || c = .scalar '\t'

def scanRow (row column : Nat) (t : Text) (s : ScanState) : List Token × ScanState :=
  match t with
  | [] => ([], s)
  | c :: u =>
    let gap := ((c :: u).takeWhile isBlankInRow).length
    let rest := (c :: u).drop gap
    let start := column + gap
    let token (n : Nat) : Token := { text := rest.take n, startRow := row, startColumn := start,
                                     endRow := row, endColumn := start + n }
    let onward (n : Nat) (s : ScanState) : List Token × ScanState :=
      let (ts, s') := scanRow row (start + n) (u.drop (gap + n - 1)) s
      (token n :: ts, s')
    let openHere (mark : QuoteMark) : OpenString := ⟨mark, row, start, rest⟩
    match Lexeme.at? rest with
    | none =>
      let (ts, s') := scanRow row (column + 1) u s
      ({ text := [c], startRow := row, startColumn := column, endRow := row,
         endColumn := column + 1, isBroken := true } :: ts, s')
    | some .rowEnd => ([], s)
    | some (.rowJoin _) => ([], { s with joined := true })
    | some (.opening n mark) =>
      match Lexeme.closing? mark (rest.drop n) with
      | some k => onward (n + k) s
      | none => ([], { s with opened := some (openHere mark) })
    | some (.brokenString _ mark) =>
      ([], { s with opened := some (openHere mark), continued := true })
    | some (.operator n) => onward n (s.afterOperator (rest.take n))
    | some l => onward l.size s
termination_by t.length
decreasing_by all_goals (simp only [List.length_cons, List.length_drop]; omega)

/-- The column that blanks at the front of a row lead to, and how many they are. A tab goes on to the
next multiple of eight, a form feed back to the start. -/
def indentation (column count : Nat) : Text → Nat × Nat
  | [] => (column, count)
  | c :: t =>
    if c = .scalar ' ' then indentation (column + 1) (count + 1) t
    else if c = .scalar '\t' then indentation ((column / 8 + 1) * 8) (count + 1) t
    else if c = .scalar '\x0c' then indentation 0 (count + 1) t
    else (column, count)

def endsJoined (t : Text) : Bool :=
  match t.reverse with
  | .scalar '\n' :: .scalar '\\' :: _ => true
  | .scalar '\n' :: .scalar '\r' :: .scalar '\\' :: _ => true
  | _ => false

/-- The tokens of a row that begins outside strings, at the start of a statement. Nothing is read
after a row of blanks without a newline, nor after a column between two blocks. -/
def scanStatement (row : Nat) (t : Text) (s : ScanState) : List Token × Option ScanState :=
  let (column, count) := indentation 0 0 t
  match t.drop count with
  | [] => ([], none)
  | c :: rest =>
    if c = .scalar '#' then
      let n := (Lexeme.comment? (c :: rest)).elim 0 Lexeme.size
      ([{ text := (c :: rest).take n, startRow := row, startColumn := count, endRow := row,
          endColumn := count + n }], some s)
    else if c = .scalar '\r' ∨ c = .scalar '\n' then ([], some s)
    else match s.enter? column with
      | none => ([], none)
      | some s => let (ts, s) := scanRow row count (c :: rest) s; (ts, some s)

/-- The tokens of a row that begins inside a string. A continued single-quoted string breaks off at a
row that neither closes nor continues it. -/
def scanString (row : Nat) (t : Text) (o : OpenString) (s : ScanState) :
    List Token × ScanState :=
  let ended (n : Nat) (isBroken : Bool) : Token :=
    { text := o.text ++ t.take n, startRow := o.row, startColumn := o.column, endRow := row,
      endColumn := n, isBroken }
  match Lexeme.closing? o.mark t with
  | some n =>
    let (ts, s) := scanRow row n (t.drop n) { s with opened := none, continued := false }
    (ended n false :: ts, s)
  | none =>
    if s.continued && !endsJoined t then ([ended t.length true], { s with opened := none })
    else ([], { s with opened := some { o with text := o.text ++ t } })

def scan (row : Nat) : List Text → ScanState → List Token
  | [], _ => []
  | t :: rest, s =>
    let (ts, s') : List Token × Option ScanState :=
      match s.opened with
      | some o => let (ts, s) := scanString row t o s; (ts, some s)
      | none =>
        if s.brackets = 0 && !s.joined then scanStatement row t s
        else let (ts, s) := scanRow row 0 t { s with joined := false }; (ts, some s)
    ts ++ (s'.elim [] fun s => scan (row + 1) rest s)

def rowsWithEnds (t : Text) : List Text :=
  match t.rows.reverse with
  | [] => []
  | last :: front =>
    (front.reverse.map fun r => r ++ [newline]) ++ (if last.isEmpty then [] else [last])

def ofText (t : Text) : List Token := scan 1 (rowsWithEnds t) {}

end Token

def insideRows (t : Text) : List Nat :=
  (Token.ofText t).flatMap fun k =>
    (List.range (k.endRow - k.startRow)).map fun i => k.startRow + 1 + i

end RenderSource
