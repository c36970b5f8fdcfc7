import RenderSource.Value.Operators
import RenderSource.Number.FloatText
import RenderSource.Text.Identifier
import RenderSource.Text.Lines
/-!
Numbers read from text, numbers of one kind made into another, and arithmetic on them.
-/
namespace RenderSource.Builtin

def trim (t : Text) : Text :=
  ((t.dropWhile CodePoint.isBlank).reverse.dropWhile CodePoint.isBlank).reverse

def signOf : Text → Bool × Text
  | .scalar '-' :: t => (true, t)
  | .scalar '+' :: t => (false, t)
  | t => (false, t)

def digitIn (base : Nat) (c : CodePoint) : Option Nat :=
  let n := c.val
  let d : Option Nat :=
    if 0x30 ≤ n ∧ n ≤ 0x39 then some (n - 0x30)
    else if 0x61 ≤ n ∧ n ≤ 0x7A then some (n - 0x61 + 10)
    else if 0x41 ≤ n ∧ n ≤ 0x5A then some (n - 0x41 + 10)
    else none
  d.filter fun d => decide (d < base)

def figures? (base : Nat) : Bool → Text → Option (List Nat)
  | between, [] => if between then some [] else none
  | between, c :: t =>
    if c = .scalar '_' then (if between then figures? base false t else none)
    else do return (← digitIn base c) :: (← figures? base true t)

def dropBase (base : Nat) (t : Text) : Text :=
  let mark : List Char := if base = 16 then ['x', 'X'] else if base = 8 then ['o', 'O']
    else if base = 2 then ['b', 'B'] else []
  match t with
  | .scalar '0' :: .scalar c :: rest =>
    if c ∈ mark then (match rest with
      | .scalar '_' :: rest => rest
      | rest => rest) else t
  | t => t

/-- Reads an integer; one with too many figures for a text is refused as well. -/
def readInt (base : Nat) (t : Text) : Except Fault Int :=
  let (negative, t) := signOf (trim t)
  match figures? base false (dropBase base t) with
  | none => .error .badValue
  | some ds =>
    if base = 10 ∧ Decimal.figureLimit < ds.length then .error .badValue
    else .ok (if negative then -(Decimal.ofDigits base ds : Int) else Decimal.ofDigits base ds)

def ownBase (t : Text) : Nat :=
  match (signOf (trim t)).2 with
  | .scalar '0' :: .scalar c :: _ =>
    if c ∈ ['x', 'X'] then 16 else if c ∈ ['o', 'O'] then 8 else if c ∈ ['b', 'B'] then 2 else 10
  | _ => 10

def lowered (t : Text) : Text := t.map fun
  | .scalar c => .scalar c.toLower
  | c => c

def spanFigures (t : Text) : Option (List Nat) × Text :=
  let (ds, rest) := t.span fun c => c.isDigit || c = .scalar '_'
  (if ds.isEmpty then some [] else figures? 10 false ds, rest)

/-- Beyond this an exponent gives infinity or zero. -/
def exponentLimit : Nat := 5000

def readFloat (t : Text) : Except Fault Binary64 :=
  let (negative, t) := signOf (lowered (trim t))
  let signed (x : Binary64) : Except Fault Binary64 := .ok (if negative then x.negate else x)
  if t = wording "inf" || t = wording "infinity" then signed .infinity
  else if t = wording "nan" then signed .nan
  else
    let (whole, t) := spanFigures t
    let (part, t) := match t with
      | .scalar '.' :: t => spanFigures t
      | t => (some [], t)
    let exponent : Option Int := match t with
      | [] => some 0
      | .scalar 'e' :: t =>
        let (negative, t) := signOf t
        (figures? 10 false t).map fun ds =>
          let n := min (Decimal.ofDigits 10 ds) exponentLimit
          if negative then -(n : Int) else n
      | _ => none
    match whole, part, exponent with
    | some ws, some ps, some e =>
      if ws.isEmpty ∧ ps.isEmpty then .error .badValue
      else signed (Binary64.ofDecimal (Decimal.ofDigits 10 (ws ++ ps)) (e - ps.length))
    | _, _, _ => .error .badValue

def bytesText (bs : List UInt8) : Text := bs.map fun b => .scalar (Char.ofNat b.toNat)

def toInt (v : Value) : Except Fault Int :=
  match v with
  | .float x _ _ =>
    if x.isNaN then .error .badValue
    else if x.isFinite then .ok x.truncated
    else .error .outOfRange
  | .text t _ => readInt 10 t
  | .bytes bs => readInt 10 (bytesText bs)
  | v => match v.asInt? with
    | some n => .ok n
    | none => .error .wrongType

def toFloat (v : Value) : Except Fault Binary64 :=
  match v with
  | .float x _ _ => .ok x
  | .text t _ => readFloat t
  | .bytes bs => readFloat (bytesText bs)
  | v => match v.asInt? with
    | some n =>
      let x := Binary64.nearestInt n 1
      if x.isFinite then .ok x else .error .outOfRange
    | none => .error .wrongType

def inBase (mark : String) (base : Nat) (n : Int) : Text :=
  wording (if n < 0 then "-" else "") ++ wording mark ++
    (Decimal.digits base n.natAbs).map Decimal.digitText

def rounded (x : Binary64) : Int :=
  let (n, d) := x.quotient
  let m : Int := Binary64.roundHalfEven n.natAbs d
  if n < 0 then -m else m

def roundedTo (n : Int) (places : Nat) : Int :=
  let unit := Nat.pow 10 places
  let m : Int := (Binary64.roundHalfEven n.natAbs unit * unit : Nat)
  if n < 0 then -m else m

def absolute (v : Value) : Except Fault Value :=
  match v with
  | .float x _ _ => .ok (.float { x with negative := false } none 0)
  | .duration n => .ok (.duration n.natAbs)
  | v => match v.asInt? with
    | some n => .ok (.ofInt n.natAbs)
    | none => .error .wrongType

def powerLimit : Nat := 100000

def power (a b : Value) : Except Fault Value :=
  match a.asInt?, b.asInt? with
  | some m, some n =>
    if 0 ≤ n then
      if m.natAbs ≤ 1 ∨ n.toNat * m.natAbs.log2 < powerLimit then .ok (.ofInt (Int.pow m n.toNat))
      else .error .outOfMemory
    else if m = 0 then .error .divisionByZero
    else .ok (.float (Binary64.nearestInt (if m < 0 ∧ n % 2 ≠ 0 then -1 else 1)
      (Nat.pow m.natAbs n.natAbs)) none 0)
  | _, _ => .error .wrongType

def round (v : Value) : Except Fault Value :=
  match v with
  | .float x _ _ =>
    if x.isNaN then .error .badValue
    else if x.isFinite then .ok (.ofInt (rounded x))
    else .error .outOfRange
  | v => match v.asInt? with
    | some n => .ok (.ofInt n)
    | none => .error .wrongType

def roundTo (v places : Value) : Except Fault Value :=
  match v, v.asInt?, places.asInt? with
  | _, some n, some k => .ok (.ofInt (if k < 0 then roundedTo n k.natAbs else n))
  | .float x _ _, _, some k =>
    if !x.isFinite ∨ 400 < k then .ok v
    else if k < -400 then .ok (.float { Binary64.zero with negative := x.negative } none 0)
    else
      let (n, d) := x.quotient
      let unit := Nat.pow 10 k.natAbs
      let y := if 0 ≤ k then
          Binary64.nearest (Binary64.roundHalfEven (n.natAbs * unit) d) unit
        else Binary64.nearest (Binary64.roundHalfEven n.natAbs (d * unit) * unit) 1
      .ok (.float { y with negative := x.negative } none 0)
  | _, _, _ => .error .wrongType

def hashModulus : Nat := 0x1fffffffffffffff

def hashOf (n : Int) : Int :=
  let h : Int := (n.natAbs % hashModulus : Nat)
  let h := if n < 0 then -h else h
  if h = -1 then -2 else h

end RenderSource.Builtin
