import RenderSource.Code.Token
import RenderSource.Fault
/-!
Pieces of source that are broken in themselves, whatever stands around them: strings that are not
closed, brackets that do not match or go too deep, numbers that run into letters, and characters that
have no meaning. What is said of them goes before all that is said of the order of pieces.
-/
namespace RenderSource

/-- A fault in a source, its row from 1 and its column from 0. -/
structure SourceFault where
  problem : LoadProblem
  row : Nat
  column : Int
  deriving DecidableEq, Repr

namespace Broken

structure Bracket where
  mark : CodePoint
  row : Nat
  column : Nat
  deriving DecidableEq, Repr

structure Unclosed where
  mark : QuoteMark
  row : Nat
  column : Nat
  deriving DecidableEq, Repr

structure Opened where
  brackets : List Bracket := []
  string : Option Unclosed := none
  deriving DecidableEq, Repr

/-- How a look at source ends: at its end, at a fault, or where nothing more can be told. -/
inductive Look
  | ended (o : Opened)
  | fault (f : SourceFault)
  | stopped
  deriving DecidableEq, Repr

def bracketLimit : Nat := 200

def brackets : List (Char × Char) := [('(', ')'), ('[', ']'), ('\x7b', '\x7d')]

def closingOf? (c : CodePoint) : Option CodePoint :=
  (brackets.find? fun (opening, _) => c = .scalar opening).map fun (_, closing) => .scalar closing

def isClosing (c : CodePoint) : Bool := brackets.any fun (_, closing) => c = .scalar closing

def openBracket (row column : Nat) (c : CodePoint) (outer : List Bracket) :
    Except SourceFault (List Bracket) :=
  if outer.length < bracketLimit then .ok (⟨c, row, column⟩ :: outer)
  else .error ⟨.deepBrackets, row, column⟩

def closeBracket (row column : Nat) (c : CodePoint) : List Bracket → Except SourceFault (List Bracket)
  | [] => .error ⟨.unmatchedBracket c, row, column⟩
  | b :: outer =>
    if closingOf? b.mark = some c then .ok outer
    else if b.row = row then .error ⟨.mismatchedBracket c b.mark, row, column⟩
    else .error ⟨.mismatchedBracketRow c b.mark b.row, row, column⟩

def closingInRow? (mark : QuoteMark) : Text → Option Nat
  | [] => none
  | c :: t =>
    if c = .scalar '\\' then match t with
      | [] => none
      | _ :: u => (closingInRow? mark u).map (· + 2)
    else if c = .scalar mark.char then
      if !mark.triple then some 1
      else if Text.beginsWith [.scalar mark.char, .scalar mark.char] t then some 3
      else (closingInRow? mark t).map (· + 1)
    else (closingInRow? mark t).map (· + 1)

def hidesEnd (t : Text) : Bool :=
  (t.reverse.takeWhile fun c => c = .scalar '\\').length % 2 = 1

def goesOn (mark : QuoteMark) (t : Text) : Bool := mark.triple || hidesEnd t

def isWordPart (c : CodePoint) : Bool :=
  decide (0x80 ≤ c.val) || c.isDigit || c = .scalar '_' || (Char.ofNat c.val).isAlpha

def wordsAfterNumber : List String := ["and", "else", "for", "if", "in", "is", "or", "not"]

def numberKind (t : Text) : String :=
  match t, t.getLast? with
  | .scalar '0' :: .scalar c :: _, last =>
    if c.toLower = 'x' then "hexadecimal" else if c.toLower = 'o' then "octal"
    else if c.toLower = 'b' then "binary"
    else if last.any (Lexeme.isLetter · 'j') then "imaginary" else "decimal"
  | _, last => if last.any (Lexeme.isLetter · 'j') then "imaginary" else "decimal"

def lookRow (row column : Nat) (t : Text) (brackets : List Bracket) : Look :=
  match t with
  | [] => .ended { brackets }
  | c :: u =>
    let onward (n : Nat) (brackets : List Bracket) : Look :=
      lookRow row (column + 1 + n) (u.drop n) brackets
    let number := Lexeme.numberSize (c :: u)
    let word := (c :: u).takeWhile isWordPart
    match Lexeme.openingQuote? (c :: u) with
    | some (n, q) =>
      let triple := Text.beginsWith [.scalar q, .scalar q, .scalar q] ((c :: u).drop n)
      let mark : QuoteMark := ⟨q, triple⟩
      let front := n + (if triple then 3 else 1)
      let body := (c :: u).drop front
      match closingInRow? mark body with
      | some k => onward (front + k - 1) brackets
      | none =>
        if goesOn mark body then .ended { brackets, string := some ⟨mark, row, column⟩ }
        else .fault ⟨.openString row, row, column⟩
    | none =>
      if c = .scalar '#' then .ended { brackets }
      else if c = .scalar '\\' then (if u.isEmpty then .ended { brackets } else .stopped)
      else if number != 0 then
        let behind := ((c :: u).drop number).takeWhile isWordPart
        if behind.isEmpty || wordsAfterNumber.any fun w => Text.beginsWith (wording w) behind then
          onward (number - 1) brackets
        else
          .fault ⟨.badNumber (numberKind ((c :: u).take number)), row, column + number - 1⟩
      else if !word.isEmpty then
        let valid := if c.startsName then 1 + (word.drop 1 |>.takeWhile CodePoint.continuesName).length
          else 0
        match word.drop valid with
        | [] => onward (word.length - 1) brackets
        | d :: _ => .fault ⟨.badCharacter d, row, column + valid⟩
      else if (closingOf? c).isSome then
        match openBracket row column c brackets with
        | .ok brackets => onward 0 brackets
        | .error f => .fault f
      else if isClosing c then
        match closeBracket row column c brackets with
        | .ok brackets => onward 0 brackets
        | .error f => .fault f
      else if (c.val < 0x20 && !Token.isBlankInRow c) || c.val = 0x7F then
        .fault ⟨.badCharacter c, row, column⟩
      else onward 0 brackets
termination_by t.length
decreasing_by all_goals (simp only [List.length_cons, List.length_drop]; omega)

def look (count row : Nat) : List Text → Opened → Look
  | [], o => match o.string with
    | some s =>
      .fault ⟨if s.mark.triple then .openTripleString count else .openString count, s.row, s.column⟩
    | none => .ended o
  | t :: rest, o =>
    match o.string with
    | none => match lookRow row 0 t o.brackets with
      | .ended o => look count (row + 1) rest o
      | done => done
    | some s => match closingInRow? s.mark t with
      | some k => match lookRow row k (t.drop k) o.brackets with
        | .ended o => look count (row + 1) rest o
        | done => done
      | none =>
        if goesOn s.mark t then look count (row + 1) rest o
        else .fault ⟨.openString row, s.row, s.column⟩

end Broken

end RenderSource
