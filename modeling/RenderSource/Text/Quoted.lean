import RenderSource.Text.CodePoint
import RenderSource.Text.Ranges
import RenderSource.Text.PrintableRanges
import RenderSource.Number.Decimal
/-!
Quoted forms of a text. `quote` writes the double-quoted literal that generated source holds;
`unquote?` reads one back from the front of a source. `Shown` forms are what messages and container
texts show: they prefer single quotes and escape all that is not printable.
-/
namespace RenderSource.Text

def unsafeInLiteral (c : CodePoint) : Bool :=
  c.isSurrogate || c.val < 0x20 || c.val = 0x7F || c = .scalar '"' || c = .scalar '\\'

def escapeInLiteral (c : CodePoint) : Text :=
  if c = .scalar '\\' then wording "\\\\"
  else if c = .scalar '"' then wording "\\\""
  else if c = .scalar '\n' then wording "\\n"
  else if c = .scalar '\t' then wording "\\t"
  else if c = .scalar '\r' then wording "\\r"
  else if c.isSurrogate then wording "\\u" ++ Decimal.hexPadded 4 c.val
  else if unsafeInLiteral c then wording "\\x" ++ Decimal.hexPadded 2 c.val
  else [c]

def quoteBody (t : Text) : Text := t.flatMap escapeInLiteral

def quote (t : Text) : Text := [.scalar '"'] ++ quoteBody t ++ [.scalar '"']

/-- The code point that an escape names, and what follows the escape. The backslash is already read. -/
def readEscape? : Text → Option (CodePoint × Text)
  | .scalar '\\' :: r => some (.scalar '\\', r)
  | .scalar '"' :: r => some (.scalar '"', r)
  | .scalar 'n' :: r => some (.scalar '\n', r)
  | .scalar 't' :: r => some (.scalar '\t', r)
  | .scalar 'r' :: r => some (.scalar '\r', r)
  | .scalar 'x' :: a :: b :: r => do
    let n ← Decimal.readHex? [a, b]
    return (← CodePoint.ofNat? n, r)
  | .scalar 'u' :: a :: b :: c :: d :: r => do
    let n ← Decimal.readHex? [a, b, c, d]
    return (← CodePoint.ofNat? n, r)
  | _ => none

theorem readEscape?_shorter {s r : Text} {c : CodePoint} (h : readEscape? s = some (c, r)) :
    r.length < s.length := by
  unfold readEscape? at h
  split at h <;> simp only [Option.bind_eq_bind, Option.bind_eq_some_iff, Option.pure_def,
    Option.some.injEq, Prod.mk.injEq, reduceCtorEq] at h
  all_goals first
    | (obtain ⟨_, rfl⟩ := h; simp)
    | (obtain ⟨_, _, _, _, _, rfl⟩ := h; simp; omega)

def unquoteBody? (s : Text) : Option (Text × Text) :=
  match s with
  | [] => none
  | c :: r =>
    if c = .scalar '"' then some ([], r)
    else if c = .scalar '\n' then none
    else if c = .scalar '\\' then
      match _h : readEscape? r with
      | none => none
      | some (d, r') => (unquoteBody? r').map fun (t, rest) => (d :: t, rest)
    else (unquoteBody? r).map fun (t, rest) => (c :: t, rest)
termination_by s.length
decreasing_by
  · have := readEscape?_shorter _h
    simp; omega
  · simp

def unquote? : Text → Option (Text × Text)
  | .scalar '"' :: r => unquoteBody? r
  | _ => none

def isPrintable (c : CodePoint) : Bool := !Ranges.has unprintableRanges c.val

def escapeShown (q : Char) (c : CodePoint) : Text :=
  if c = .scalar q then wording "\\" ++ [c]
  else if c = .scalar '\\' then wording "\\\\"
  else if c = .scalar '\n' then wording "\\n"
  else if c = .scalar '\t' then wording "\\t"
  else if c = .scalar '\r' then wording "\\r"
  else if isPrintable c then [c]
  else if c.val < 0x100 then wording "\\x" ++ Decimal.hexPadded 2 c.val
  else if c.val < 0x10000 then wording "\\u" ++ Decimal.hexPadded 4 c.val
  else wording "\\U" ++ Decimal.hexPadded 8 c.val

/-- Single quotes, unless they alone would need escaping. -/
def shownQuote (t : Text) : Char :=
  if t.contains (.scalar '\'') && !t.contains (.scalar '"') then '"' else '\''

def shown (t : Text) : Text :=
  let q := shownQuote t
  [.scalar q] ++ t.flatMap (escapeShown q) ++ [.scalar q]

def shownBytes (bytes : List UInt8) : Text :=
  let t : Text := bytes.map fun b => .scalar (Char.ofNat b.toNat)
  let q := shownQuote t
  let one (c : CodePoint) : Text :=
    if c.val < 0x7F then escapeShown q c else wording "\\x" ++ Decimal.hexPadded 2 c.val
  wording "b" ++ [.scalar q] ++ t.flatMap one ++ [.scalar q]

end RenderSource.Text
