import RenderSource.Number.FloatText
import RenderSource.Text.Quoted
import RenderSource.Text.Identifier
/-!
Expressions of generated source and reading them back: names, literals, displays of lists and
mappings, calls, items, attributes, signs, sums, denials and brackets. Reading that fails tells how
much of the text is left at the place where it fails.
-/
namespace RenderSource

inductive Term
  | name (n : Text)
  | text (t : Text)
  | nat (n : Nat)
  | float (x : Binary64)
  | truth (b : Bool)
  | none
  | negative (t : Term)
  | list (items : List Term)
  | dict (entries : List (Term × Term))
  | call (f : Term) (args : List Term) (named : List (Text × Term))
  | item (t key : Term)
  | attr (t : Term) (name : Text)
  | sum (a b : Term)
  | denial (t : Term)
  | tuple (items : List Term)
  /-- Waiting for a value, with how much of the row is left where it begins. -/
  | awaited (left : Nat) (t : Term)
  /-- Handing a value out, with how much of the row is left where it begins. -/
  | yielded (left : Nat) (t : Term)

instance : Inhabited Term := ⟨.none⟩

namespace Term

def skipBlanks (t : Text) : Text := t.dropWhile fun c => c = .scalar ' '

def readMark (m : Char) (t : Text) : Except Nat (Unit × Text) :=
  match skipBlanks t with
  | [] => .error 0
  | c :: r => if c = .scalar m then .ok ((), r) else .error (r.length + 1)

def nextIs (m : Char) (t : Text) : Bool := (skipBlanks t).head? = some (.scalar m)

def spanName (t : Text) : Text × Text :=
  match t with
  | [] => ([], [])
  | c :: _ => if c.startsName then t.span CodePoint.continuesName else ([], t)

def readName (t : Text) : Except Nat (Text × Text) :=
  let t := skipBlanks t
  let (n, r) := spanName t
  if n.isEmpty || n.isReserved then .error t.length else .ok (n, r)

def readExponent? : Text → Option (Int × Text)
  | .scalar 'e' :: .scalar '-' :: t =>
    match Decimal.readDigits t with
    | ([], _) => Option.none
    | (ds, r) => some (-(Decimal.ofDigits 10 ds : Int), r)
  | .scalar 'e' :: .scalar '+' :: t =>
    match Decimal.readDigits t with
    | ([], _) => Option.none
    | (ds, r) => some ((Decimal.ofDigits 10 ds : Int), r)
  | _ => Option.none

def readNumber (t : Text) : Term × Text :=
  let (ds, r) := Decimal.readDigits t
  let (fs, r', pointed) : List Nat × Text × Bool :=
    match r with
    | .scalar '.' :: u => let (fs, u) := Decimal.readDigits u; (fs, u, true)
    | _ => ([], r, false)
  match readExponent? r', pointed with
  | Option.none, false => (.nat (Decimal.ofDigits 10 ds), r)
  | Option.none, true =>
    (.float (Binary64.ofDecimal (Decimal.ofDigits 10 (ds ++ fs)) (-(fs.length : Int))), r')
  | some (e, r''), _ =>
    (.float (Binary64.ofDecimal (Decimal.ofDigits 10 (ds ++ fs)) (e - fs.length)), r'')

def readWord (t : Text) : Except Nat (Term × Text) :=
  let (n, r) := spanName t
  if n = wording "None" then .ok (.none, r)
  else if n = wording "True" then .ok (.truth true, r)
  else if n = wording "False" then .ok (.truth false, r)
  else if n = wording "lambda" then .error (skipBlanks r).length
  else if n.isEmpty || n.isReserved then .error t.length
  else .ok (.name n, r)

def ofBracketed : List Term → Term
  | [t] => t
  | ts => .tuple ts

/-- A name with the sign of equality behind it: the name of an argument. -/
def argumentName? (t : Text) : Option (Text × Text) :=
  let (n, r) := spanName (skipBlanks t)
  match r with
  | .scalar '=' :: u =>
    if n.isEmpty || n.isReserved || u.head? = some (.scalar '=') then Option.none else some (n, u)
  | _ => Option.none

def withArgument (n : Option Text) (a : Term) (args : List Term) (named : List (Text × Term)) :
    List Term × List (Text × Term) :=
  match n with
  | some n => (args, (n, a) :: named)
  | Option.none => (a :: args, named)

mutual

def readWithin : Nat → Text → Except Nat (Term × Text)
  | 0, t => .error t.length
  | fuel + 1, t => do
    let (word, r) := spanName (skipBlanks t)
    if word = wording "not" then
      let (a, r) ← readWithin fuel r
      return (.denial a, r)
    else
      let (a, r) ← readFactor fuel t
      readSum fuel a r

def readSum : Nat → Term → Text → Except Nat (Term × Text)
  | 0, a, t => .ok (a, t)
  | fuel + 1, a, t =>
    match skipBlanks t with
    | .scalar '+' :: r => do
      let (b, r) ← readFactor fuel r
      readSum fuel (.sum a b) r
    | _ => .ok (a, t)

def readFactor : Nat → Text → Except Nat (Term × Text)
  | 0, t => .error t.length
  | fuel + 1, t =>
    match skipBlanks t with
    | .scalar '-' :: r => do
      let (a, r) ← readFactor fuel r
      return (.negative a, r)
    | t => do
      let (word, r) := spanName t
      if word = wording "await" then
        let (a, r) ← readAtom fuel (skipBlanks r)
        let (a, r) ← readParts fuel a r
        return (.awaited t.length a, r)
      else
        let (a, r) ← readAtom fuel t
        readParts fuel a r

def readAtom : Nat → Text → Except Nat (Term × Text)
  | 0, t => .error t.length
  | _, [] => .error 0
  | fuel + 1, c :: t =>
    if c = .scalar '"' then
      match Text.unquoteBody? t with
      | some (s, r) => .ok (.text s, r)
      | Option.none => .error (t.length + 1)
    else if c = .scalar '[' then do
      let (items, r) ← readItems ']' fuel t
      return (.list items, r)
    else if c = .scalar '(' then readBracketed fuel t
    else if c = .scalar '\x7b' then do
      let (entries, r) ← readEntries fuel t
      return (.dict entries, r)
    else if c.isDigit then .ok (readNumber (c :: t))
    else readWord (c :: t)

def readParts : Nat → Term → Text → Except Nat (Term × Text)
  | 0, a, t => .ok (a, t)
  | fuel + 1, a, t =>
    match t with
    | .scalar '(' :: r => do
      let ((args, named), r) ← readArguments fuel r
      readParts fuel (.call a args named) r
    | .scalar '[' :: r => do
      let (key, r) ← readWithin fuel r
      let ((), r) ← readMark ']' r
      readParts fuel (.item a key) r
    | .scalar '.' :: r => do
      let (n, r) ← readName r
      readParts fuel (.attr a n) r
    | _ => .ok (a, t)

/-- What stands in round brackets. Handing out a value is allowed at their start only. -/
def readBracketed : Nat → Text → Except Nat (Term × Text)
  | 0, t => .error t.length
  | fuel + 1, t => do
    let (word, r) := spanName (skipBlanks t)
    if word = wording "yield" then
      let (items, r') ← readItems ')' fuel r
      return (.yielded (skipBlanks t).length (if items.isEmpty then .none else ofBracketed items), r')
    else
      let (items, r) ← readItems ')' fuel t
      return (ofBracketed items, r)

def readItems (close : Char) : Nat → Text → Except Nat (List Term × Text)
  | 0, t => .error t.length
  | fuel + 1, t =>
    if nextIs close t then do
      let ((), r) ← readMark close t
      return ([], r)
    else do
      let (a, r) ← readWithin fuel t
      if nextIs ',' r then
        let ((), r) ← readMark ',' r
        let (more, r) ← readItems close fuel r
        return (a :: more, r)
      else
        let ((), r) ← readMark close r
        return ([a], r)

def readEntries : Nat → Text → Except Nat (List (Term × Term) × Text)
  | 0, t => .error t.length
  | fuel + 1, t =>
    if nextIs '\x7d' t then do
      let ((), r) ← readMark '\x7d' t
      return ([], r)
    else do
      let (k, r) ← readWithin fuel t
      let ((), r) ← readMark ':' r
      let (v, r) ← readWithin fuel r
      if nextIs ',' r then
        let ((), r) ← readMark ',' r
        let (more, r) ← readEntries fuel r
        return ((k, v) :: more, r)
      else
        let ((), r) ← readMark '\x7d' r
        return ([(k, v)], r)

def readArguments : Nat → Text → Except Nat ((List Term × List (Text × Term)) × Text)
  | 0, t => .error t.length
  | fuel + 1, t =>
    if nextIs ')' t then do
      let ((), r) ← readMark ')' t
      return (([], []), r)
    else do
      let (n, r) := match argumentName? t with
        | some (n, r) => (some n, r)
        | Option.none => (Option.none, t)
      let (a, r) ← readWithin fuel r
      if nextIs ',' r then
        let ((), r) ← readMark ',' r
        let ((args, named), r) ← readArguments fuel r
        return (withArgument n a args named, r)
      else
        let ((), r) ← readMark ')' r
        return (withArgument n a [] [], r)

end

/-- Reading goes at most so many steps deep for each code point. -/
def depthFor (t : Text) : Nat := 8 * t.length + 8

def read (t : Text) : Except Nat (Term × Text) := readWithin (depthFor t) t

def readAll (t : Text) : Except Nat Term := do
  let (a, r) ← read t
  match skipBlanks r with
  | [] => return a
  | r => throw r.length

end Term

end RenderSource
