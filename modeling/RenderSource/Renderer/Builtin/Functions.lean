import RenderSource.Renderer.Builtin.Objects
/-!
The functions that are in scope everywhere, and calls of built-in values.
-/
namespace RenderSource.Builtin

open Env

def partOf (v name : Value) (otherwise : Option Value) : Run Value := do
  match name.asText? with
  | none => throw .wrongType
  | some n =>
    let found ← Run.look fun st =>
      if n = wording "__name__" then .ok ((v.className? st).map Value.ofText)
      else if n = wording "__undefined__" && (v.isAbsent || v.marksAbsence st) then
        .ok (some (.bool true))
      else if n = wording "__class__" then .ok (some (v.classOf st))
      else v.member? st n
    match found.or otherwise with
    | some w => return w
    | none => throw .noAttribute

def asciiShown (t : Text) : Text :=
  t.flatMap fun c => if c.val < 0x80 then [c]
    else if c.val < 0x100 then wording "\\x" ++ Decimal.hexPadded 2 c.val
    else if c.val < 0x10000 then wording "\\u" ++ Decimal.hexPadded 4 c.val
    else wording "\\U" ++ Decimal.hexPadded 8 c.val

/-- A number that tells a container from all others. -/
def identity : Value → Int
  | .ref a => 140000000000000 + 64 * a
  | _ => 140000000000000 - 64

def codePointOf (v : Value) : Except Fault Value :=
  match v with
  | .text [c] _ => .ok (.ofInt c.val)
  | .bytes [b] => .ok (.ofInt b.toNat)
  | _ => .error .wrongType

def characterOf (v : Value) : Except Fault Value :=
  match v.asInt? with
  | none => .error .wrongType
  | some n =>
    if n < -0x80000000 ∨ 0x80000000 ≤ n then .error .outOfRange
    else match (if n < 0 then none else CodePoint.ofNat? n.toNat) with
    | some c => .ok (.ofText [c])
    | none => .error .badValue

def divMod (a b : Value) : Run Value := do
  match a.asInt?, b.asInt? with
  | some m, some n =>
    if n = 0 then throw .divisionByZero
    pairOf (.ofInt (m.fdiv n)) (.ofInt (m.fmod n))
  | _, _ => throw .wrongType

/-- Kinds of values that read a format; the formats themselves are not read here. -/
def takesFormat : Value → Bool
  | .text _ _ | .int _ _ | .float _ _ _ | .bool _ | .date _ | .moment _ => true
  | _ => false

def answerItems (name : String) (args : List Value) : Run Value :=
  match name, args with
  | "all", [v] => do return .bool ((← (← itemsOf v).mapM truth).all id)
  | "any", [v] => do return .bool ((← (← itemsOf v).mapM truth).any id)
  | "iter", [v] => do
    match ← Run.look fun st => .ok (v.cell? st) with
    | some (.series _ _ _ true) => return v
    | _ => once "iterator" (← itemsOf v)
  | "len", [v] => Run.look fun st => length st v
  | "max", [v] => do
    match ← itemsOf v with
    | [] => throw .badValue
    | w :: ws => Run.look fun st => best (fun a b => Value.less st b a) w ws
  | "max", v :: w :: ws => Run.look fun st => best (fun a b => Value.less st b a) v (w :: ws)
  | "min", [v] => do
    match ← itemsOf v with
    | [] => throw .badValue
    | w :: ws => Run.look fun st => best (fun a b => Value.less st a b) w ws
  | "min", v :: w :: ws => Run.look fun st => best (fun a b => Value.less st a b) v (w :: ws)
  | "next", [v] => next v none
  | "next", [v, otherwise] => next v (some otherwise)
  | "sorted", [v] => do
    let vs ← itemsOf v
    Run.allocate (.list (← Run.look fun st => sortValues st vs) none)
  | "sum", [v] => do total (.ofInt 0) (← itemsOf v)
  | "sum", [_, .text _ _] => throw .wrongType
  | "sum", [v, start] => do total start (← itemsOf v)
  | _, _ => throw .wrongType

def answer (name : String) (args : List Value) : Run Value :=
  match name, args with
  | "abs", [v] => Run.ofExcept (absolute v)
  | "ascii", [v] => do return .ofText (asciiShown (← Run.look fun st => v.shown st))
  | "bin", [v] => match v.asInt? with
    | some n => pure (.ofText (inBase "0b" 2 n))
    | none => throw .wrongType
  | "oct", [v] => match v.asInt? with
    | some n => pure (.ofText (inBase "0o" 8 n))
    | none => throw .wrongType
  | "hex", [v] => match v.asInt? with
    | some n => pure (.ofText (inBase "0x" 16 n))
    | none => throw .wrongType
  | "callable", [v] => Run.look fun st => .ok (.bool (v.isCallable st))
  | "chr", [v] => Run.ofExcept (characterOf v)
  | "ord", [v] => Run.ofExcept (codePointOf v)
  | "divmod", [a, b] => divMod a b
  | "format", [v] => return .ofText (← textOf v)
  | "format", [v, spec] => match spec.asText? with
    | some [] => return .ofText (← textOf v)
    | some _ => throw (if takesFormat v then .badValue else .wrongType)
    | none => throw .wrongType
  | "getattr", [v, name] => partOf v name none
  | "getattr", [v, name, otherwise] => partOf v name (some otherwise)
  | "hasattr", [v, name] => do
    match name.asText? with
    | none => throw .wrongType
    | some n => Run.look fun st => return .bool (← v.member? st n).isSome
  | "hash", [v] => do
    if !(← Run.look fun st => .ok (v.isHashable st)) then throw .wrongType
    return .ofInt (hashOf (v.asInt?.getD (identity v)))
  | "id", [v] => pure (.ofInt (identity v))
  | "isinstance", [v, c] => Run.look fun st => return .bool (← v.isInstance st c)
  | "issubclass", [c, d] => Run.look fun st =>
    if c.isClass st && d.isClass st then .ok (.bool (Value.derives st c d)) else .error .wrongType
  | "pow", [a, b] => Run.ofExcept (power a b)
  | "print", args => do
    let _ ← args.mapM textOf
    return .none
  | "repr", [v] => return .ofText (← Run.look fun st => v.shown st)
  | "round", [v] => Run.ofExcept (round v)
  | "round", [v, .none] => Run.ofExcept (round v)
  | "round", [v, places] => Run.ofExcept (roundTo v places)
  | "isfinite", [v] => do
    let x ← Run.ofExcept (match v with
      | .text _ _ | .bytes _ => .error .wrongType
      | v => toFloat v)
    return .bool x.isFinite
  | name, args => answerItems name args

/-- Calls by position but for the calendar; a built-in class makes an object, one of exceptions an
exception. -/
def apply (call : Value → List Value → Run Value) (name : Text) (isClass : Bool)
    (args : List Value) (named : List (Text × Value)) : Run Value :=
  match name.characters? with
  | none => throw .wrongType
  | some cs =>
    let s := String.ofList cs
    match calendar? s args named with
    | some r => Run.ofExcept r
    | none =>
      if !named.isEmpty then throw .wrongType
      else if !isClass then answer s args
      else if s ∈ particularExceptions then throw .wrongType
      else if s = "BaseException" || exceptionParents.any fun (n, _) => n = s then
        makeException name args
      else construct call s args

end RenderSource.Builtin
