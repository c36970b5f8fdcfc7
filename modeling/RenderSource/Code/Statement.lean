import RenderSource.Code.Diagnosis
import RenderSource.Code.Layout
import RenderSource.Code.Room
import RenderSource.Library.Source
import RenderSource.Text.NormalForm
/-!
Statements of generated source and reading a source row by row. Blocks are told by the blanks in
front of rows: only the head of a function opens a deeper one. The library is read as one statement.
-/
namespace RenderSource

inductive Statement
  /-- The head of a function with its parameter. -/
  | define (name parameter : Text)
  /-- The library, with the version stamped into it. -/
  | library (version : Text)
  | assign (name : Text) (value : Term)
  /-- Adds a value to a variable. -/
  | augment (name : Text) (value : Term)
  | give (value : Term)

structure Placed where
  row : Nat
  level : Nat
  column : Nat
  /-- The row that the statement begins in. -/
  text : Text
  statement : Statement

namespace Statement

def readDefine (t : Text) : Except Nat Statement := do
  let (name, r) ← Term.readName t
  let ((), r) ← Term.readMark '(' r
  let (parameter, r) ← Term.readName r
  let ((), r) ← Term.readMark ')' r
  let ((), r) ← Term.readMark ':' r
  match Term.skipBlanks r with
  | [] => return define name parameter
  | r => throw r.length

def read (t : Text) : Except Nat Statement :=
  let (word, r) := Term.spanName t
  if word = wording "def" then readDefine r
  else if word = wording "return" then do return give (← Term.readAll r)
  else if word.isEmpty || word.isReserved then .error t.length
  else match Term.skipBlanks r with
    | .scalar '=' :: u => do return assign word (← Term.readAll u)
    | .scalar '+' :: .scalar '=' :: u => do return augment word (← Term.readAll u)
    | u => .error u.length

def names : Statement → List Text
  | define n _ | assign n _ | augment n _ => [n.normalName]
  | library _ => Library.names.map wording
  | give _ => []

def rungs (level : Nat) : Statement → Nat
  | assign _ t | augment _ t => 33 + 7 * level + t.rungs Broken.bracketLimit
  | give t => 32 + 7 * level + t.rungs Broken.bracketLimit
  | define _ _ | library _ => 0

def rungLimit : Nat := 6000

end Statement

namespace Library

def inside : List Nat := insideRows unstamped

def rowsBehind (indent : Text) : List Text := Layout.rowsFrom indent inside 1 unstamped.rows

def versionFront : Text := wording "RENDERER_VERSION = "

/-- Compares rows with those of the library. The row of the version may hold any literal. -/
def matchRows (indent : Text) (version : Text) : List Text → List Text → Option (Text × List Text)
  | [], rest => some (version, rest)
  | _ :: _, [] => none
  | e :: es, r :: rs =>
    if e = indent ++ versionFront ++ placeholder.quote then
      match (Text.dropFront? (indent ++ versionFront) r).bind Text.unquote? with
      | some (v, []) => matchRows indent v es rs
      | _ => none
    else if e = r then matchRows indent version es rs
    else none

def firstRow : Text := unstamped.rows.headD []

/-- The rows of the library that are first in one more of its own blocks than any row before them. -/
def deeperRows : List Nat := [14, 24, 42, 43]

def read? (indent : Text) (rows : List Text) : Option (Text × List Text) :=
  if rows.head? = some (indent ++ firstRow) then matchRows indent [] (rowsBehind indent) rows
  else none

end Library

namespace Placed

/-- No more blocks than this can be open, that of the whole source among them. -/
def blockLimit : Nat := 100

def blocks? (row column : Nat) (blocks : List Nat) (expected : Bool) :
    Except SourceFault (List Nat) :=
  let top := blocks.headD 0
  if top < column ∧ blockLimit ≤ blocks.length then .error ⟨.deepBlocks, row, 0⟩
  else if expected then
    if top < column then .ok (column :: blocks) else .error ⟨.missingBlock, row, column⟩
  else if top < column then .error ⟨.unexpectedIndent, row, (column : Int) - 1⟩
  else if column ∈ blocks then .ok (blocks.dropWhile fun c => decide (column < c))
  else .error ⟨.unevenDedent, row, column⟩

def isDefine : Statement → Bool
  | .define _ _ => true
  | _ => false

/-- Why a row does not read where so much of it is left. A piece that is broken in itself, also in a
later row, is told first; then a bracket that is open to the end of the source. -/
def unread (count row : Nat) (t : Text) (rest : List Text) (left : Nat) : SourceFault :=
  match Broken.look count row (t :: rest) {} with
  | .fault f => f
  | .ended { brackets := b :: _, string := _ } =>
    if left = 0 then ⟨.openBracket b.mark, b.row, b.column⟩ else Diagnosis.ofRow row t left
  | _ => Diagnosis.ofRow row t left

def readRow (count row level : Nat) (t content : Text) (rest : List Text) : Except SourceFault Statement :=
  match Statement.read content with
  | .error left => .error (unread count row t rest left)
  | .ok s =>
    if Statement.rungLimit < s.rungs level then .error ⟨.noRoom, row, 0⟩
    else match Broken.lookRow row 0 t [] with
      | .fault f => .error f
      | _ => .ok s

/-- The row of a library that begins in row `row` in which its own blocks, inside so many others, are too
many. -/
def deepRow? (row blocks : Nat) : Option Nat :=
  Library.deeperRows[blockLimit - blocks]?.map fun n => row + n - 1

/-- The statements from row `row` of `count` on; `expected` after the head of a function. The fuel is
the number of rows. -/
def readRows (count : Nat) :
    Nat → Nat → List Nat → Bool → List Text → Except SourceFault (List Placed)
  | 0, _, _, _, _ => .ok []
  | _, _, _, _, [] => .ok []
  | fuel + 1, row, blocks, expected, t :: rest => do
    let (indent, content) := t.span fun c => c = .scalar ' '
    if content.isEmpty then readRows count fuel (row + 1) blocks expected rest
    else
      let column := indent.length
      let blocks ← blocks? row column blocks expected
      let place (s : Statement) : Placed := ⟨row, blocks.length - 1, column, t, s⟩
      match Library.read? indent (t :: rest) with
      | some (version, after) => match deepRow? row blocks.length with
        | some n => throw ⟨.deepBlocks, n, 0⟩
        | none =>
          let used := rest.length + 1 - after.length
          return place (.library version) :: (← readRows count fuel (row + used) blocks false after)
      | none =>
        let s ← readRow count row (blocks.length - 1) t content rest
        return place s :: (← readRows count fuel (row + 1) blocks (isDefine s) rest)

/-- A carriage return, with or without a newline, ends a row as a newline does. -/
def unified : Text → Text
  | [] => []
  | .scalar '\r' :: .scalar '\n' :: t => newline :: unified t
  | c :: t => (if c = .scalar '\r' then newline else c) :: unified t

def read (source : Text) : Except SourceFault (List Placed) :=
  let rows := (unified source).rows
  readRows rows.length rows.length 1 [0] false rows

end Placed

end RenderSource
