import RenderSource.Text.Lines
import RenderSource.Text.Identifier
/-!
The smallest pieces of generated source: what begins at a place of a row, and how far it reaches.
Only strings can reach beyond their row.
-/
namespace RenderSource

structure QuoteMark where
  char : Char
  triple : Bool
  deriving DecidableEq, Repr

inductive Lexeme
  /-- A backslash with the newline after it: the statement goes on in the next row. -/
  | rowJoin (size : Nat)
  | rowEnd
  | comment (size : Nat)
  /-- The opening of a triple-quoted string, with its prefix. -/
  | opening (size : Nat) (mark : QuoteMark)
  | number (size : Nat)
  | newline (size : Nat)
  | operator (size : Nat)
  | string (size : Nat)
  /-- A single-quoted string that goes on in the next row after a backslash. -/
  | brokenString (size : Nat) (mark : QuoteMark)
  | name (size : Nat)
  deriving DecidableEq, Repr

namespace Lexeme

def size : Lexeme → Nat
  | rowEnd => 0
  | rowJoin n | comment n | opening n _ | number n | newline n | operator n | string n
  | brokenString n _ | name n => n

/-- Code points up to and with the closing quote, in the part of a string that `t` holds. A backslash
hides the code point after it, but not a newline. -/
def closing? (mark : QuoteMark) : Text → Option Nat
  | [] => none
  | [c] => if c = .scalar mark.char && !mark.triple then some 1 else none
  | c :: d :: t =>
    if c = .scalar '\\' then
      if d = RenderSource.newline then none else (closing? mark t).map (· + 2)
    else if c = .scalar mark.char then
      if !mark.triple then some 1
      else if Text.beginsWith [.scalar mark.char, .scalar mark.char] (d :: t) then some 3
      else (closing? mark (d :: t)).map (· + 1)
    else (closing? mark (d :: t)).map (· + 1)

def isQuote (c : CodePoint) : Option Char :=
  if c = .scalar '\'' then some '\'' else if c = .scalar '"' then some '"' else none

def prefixLetters : List String :=
  ["b", "r", "u", "f", "br", "rb", "fr", "rf"]

def lower (c : CodePoint) : CodePoint :=
  match c with
  | .scalar c => .scalar c.toLower
  | c => c

def openingQuote? : Text → Option (Nat × Char)
  | [] => none
  | c :: t =>
    match isQuote c, t with
    | some q, _ => some (0, q)
    | none, [] => none
    | none, d :: u =>
      match isQuote d, u with
      | some q, _ => if prefixLetters.any fun p => wording p = [lower c] then some (1, q) else none
      | none, [] => none
      | none, e :: _ =>
        (isQuote e).bind fun q =>
          if prefixLetters.any fun p => wording p = [lower c, lower d] then some (2, q) else none

def tripleOpening? (t : Text) : Option Lexeme :=
  (openingQuote? t).bind fun (n, q) =>
    if Text.beginsWith [.scalar q, .scalar q, .scalar q] (t.drop n) then
      some (opening (n + 3) ⟨q, true⟩)
    else none

/-- Code points to the end of a single-quoted string in its first row, and whether it goes on. -/
def stringEnd? (q : Char) : Text → Option (Nat × Bool)
  | [] => none
  | [c] => if c = .scalar q then some (1, false) else none
  | c :: d :: t =>
    if c = .scalar '\\' then
      if d = RenderSource.newline then some (2, true)
      else if d = .scalar '\r' ∧ t.head? = some RenderSource.newline then some (3, true)
      else (stringEnd? q t).map fun (n, b) => (n + 2, b)
    else if c = RenderSource.newline then none
    else if c = .scalar q then some (1, false)
    else (stringEnd? q (d :: t)).map fun (n, b) => (n + 1, b)

def string? (t : Text) : Option Lexeme :=
  (openingQuote? t).bind fun (n, q) =>
    (stringEnd? q (t.drop (n + 1))).map fun (k, broken) =>
      if broken then brokenString (n + 1 + k) ⟨q, false⟩ else string (n + 1 + k)

def figures (ok : CodePoint → Bool) : Text → Nat
  | [] => 0
  | c :: t => if ok c then 1 + more t else 0
where
  more : Text → Nat
    | [] => 0
    | [c] => if ok c then 1 else 0
    | c :: d :: t =>
      if ok c then 1 + more (d :: t)
      else if c = .scalar '_' && ok d then 2 + more t
      else 0

def isLetter (c : CodePoint) (letter : Char) : Bool := lower c = .scalar letter

def digitRun (t : Text) : Nat := figures CodePoint.isDigit t

def exponent : Text → Nat
  | [] => 0
  | c :: t =>
    if !isLetter c 'e' then 0
    else
      let signed : Nat × Text := match t with
        | d :: u => if d = .scalar '-' || d = .scalar '+' then (1, u) else (0, t)
        | [] => (0, t)
      let n := digitRun signed.2
      if n = 0 then 0 else 1 + signed.1 + n

def floating (t : Text) : Nat :=
  let n := digitRun t
  match t.drop n with
  | c :: u =>
    if c = .scalar '.' then
      let m := digitRun u
      if n = 0 && m = 0 then 0 else n + 1 + m + exponent (u.drop m)
    else if n = 0 then 0
    else
      let e := exponent (c :: u)
      if e = 0 then 0 else n + e
  | [] => 0

def based (letter : Char) (ok : CodePoint → Bool) : Text → Nat
  | a :: b :: t =>
    if a = .scalar '0' && isLetter b letter then
      let n := match t with
        | c :: u => if c = .scalar '_' then (if figures ok u = 0 then 0 else 1 + figures ok u)
            else figures ok t
        | [] => 0
      if n = 0 then 0 else 2 + n
    else 0
  | _ => 0

def isHexDigit (c : CodePoint) : Bool :=
  c.isDigit || (decide (0x61 ≤ c.val ∧ c.val ≤ 0x66)) || (decide (0x41 ≤ c.val ∧ c.val ≤ 0x46))

def decimal (t : Text) : Nat :=
  match t with
  | c :: _ => if c = .scalar '0' then figures (fun d => d = .scalar '0') t else digitRun t
  | [] => 0

def isImaginaryMark : Text → Bool
  | c :: _ => isLetter c 'j'
  | [] => false

/-- Imaginary numbers come first, then floating ones, then integers. -/
def numberSize (t : Text) : Nat :=
  let n := digitRun t
  let f := floating t
  if n != 0 && isImaginaryMark (t.drop n) then n + 1
  else if f != 0 then (if isImaginaryMark (t.drop f) then f + 1 else f)
  else
    let x := based 'x' isHexDigit t
    let b := based 'b' (fun c => c = .scalar '0' || c = .scalar '1') t
    let o := based 'o' (fun c => decide (0x30 ≤ c.val ∧ c.val ≤ 0x37)) t
    if x != 0 then x else if b != 0 then b else if o != 0 then o else decimal t

def operators : List String := [
  "**=", "//=", "<<=", ">>=", "...", "!=", "%=", "&=", "**", "*=", "+=", "-=", "->", "//", "/=",
  ":=", "<<", "<=", "==", ">=", ">>", "@=", "^=", "|=", "%", "&", "(", ")", "*", "+", ",", "-", ".",
  "/", ":", ";", "<", "=", ">", "@", "[", "]", "^", "\x7b", "|", "\x7d", "~" ]

def operatorSize? (t : Text) : Option Nat :=
  (operators.find? fun o => Text.beginsWith (wording o) t).map String.length

def newlineSize? : Text → Option Nat
  | .scalar '\n' :: _ => some 1
  | .scalar '\r' :: .scalar '\n' :: _ => some 2
  | _ => none

def rowJoin? : Text → Option Lexeme
  | .scalar '\\' :: t => (newlineSize? t).map fun n => rowJoin (n + 1)
  | _ => none

def comment? : Text → Option Lexeme
  | .scalar '#' :: t =>
    some (comment (1 + (t.takeWhile fun c => c != .scalar '\r' && c != .scalar '\n').length))
  | _ => none

def name? (t : Text) : Option Lexeme :=
  let n := (t.takeWhile CodePoint.isWord).length
  if n = 0 then none else some (name n)

def at? (t : Text) : Option Lexeme :=
  if t.isEmpty then some rowEnd
  else (rowJoin? t).or ((comment? t).or ((tripleOpening? t).or (
    (if numberSize t = 0 then none else some (number (numberSize t))).or (
      ((newlineSize? t).map newline).or (((operatorSize? t).map operator).or (
        (string? t).or (name? t)))))))

end Lexeme

end RenderSource
