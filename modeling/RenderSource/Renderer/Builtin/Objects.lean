import RenderSource.Renderer.Builtin.Collections
import RenderSource.Renderer.Builtin.Numbers
/-!
Objects of the classes that are in scope everywhere, and of the calendar's classes.
-/
namespace RenderSource.Builtin

open Env

def makeText : List Value → Run Value
  | [] => pure (.ofText [])
  | [v] => return .ofText (← textOf v)
  | _ => throw .wrongType

def makeInt : List Value → Run Value
  | [] => pure (.ofInt 0)
  | [v] => return .ofInt (← Run.ofExcept (toInt v))
  | [v, base] => do
    match base.asInt? with
    | none => throw .wrongType
    | some b =>
      if b != 0 && (b < 2 || 36 < b) then throw .badValue
      let t ← match v with
        | .text t _ => pure t
        | .bytes bs => pure (bytesText bs)
        | _ => throw .wrongType
      if b = 0 then
        let base := ownBase t
        let body := (signOf (trim t)).2
        if base = 10 ∧ body.head? = some (.scalar '0') ∧
            body.any (fun c => c != .scalar '0' && c != .scalar '_') then throw .badValue
        return .ofInt (← Run.ofExcept (readInt base t))
      else return .ofInt (← Run.ofExcept (readInt b.toNat t))
  | _ => throw .wrongType

def makeFloat : List Value → Run Value
  | [] => pure (.float .zero none 0)
  | [v] => return .float (← Run.ofExcept (toFloat v)) none 0
  | _ => throw .wrongType

def makeDict : List Value → Run Value
  | [] => Run.allocate (.dict [] none)
  | [v] => do
    match ← Run.look fun st => .ok (v.entries? st) with
    | some es => Run.allocate (.dict es none)
    | none =>
      let pairs ← (← itemsOf v).mapM itemsOf
      Run.allocate (.dict (← Run.look fun st => entriesFrom st pairs) none)
  | _ => throw .wrongType

def makeBytes : List Value → Run Value
  | [] => pure (.bytes [])
  | [.bytes bs] => pure (.bytes bs)
  | [.text _ _] => throw .wrongType
  | [v] => match v.asInt? with
    | some n =>
      if n < 0 then throw .badValue
      else if 0x8000000000000000 ≤ n then throw .outOfRange
      else if n.toNat ≤ rangeLimit then pure (.bytes (List.replicate n.toNat 0))
      else throw .outOfMemory
    | none => do
      let bs ← (← itemsOf v).mapM fun w => match w.asInt? with
        | some n => if 0 ≤ n ∧ n < 256 then pure (UInt8.ofNat n.toNat) else throw .badValue
        | none => throw .wrongType
      return .bytes bs
  | _ => throw .wrongType

def makeRange : List Value → Run Value
  | [b] => match b.asInt? with
    | some b => rangeOf 0 b 1
    | none => throw .wrongType
  | [a, b] => match a.asInt?, b.asInt? with
    | some a, some b => rangeOf a b 1
    | _, _ => throw .wrongType
  | [a, b, c] => match a.asInt?, b.asInt?, c.asInt? with
    | some a, some b, some c => rangeOf a b c
    | _, _, _ => throw .wrongType
  | _ => throw .wrongType

/-- Classes of exceptions that are made from parts of kinds of their own. -/
def particularExceptions : List String := [
  "UnicodeDecodeError", "UnicodeEncodeError", "UnicodeTranslateError", "ExceptionGroup",
  "BaseExceptionGroup" ]

def makeException (name : Text) (args : List Value) : Run Value :=
  Run.allocate (.exception (.builtin name true) name args [])

def construct (call : Value → List Value → Run Value) (name : String) (args : List Value) :
    Run Value :=
  match name, args with
  | "str", args => makeText args
  | "int", args => makeInt args
  | "float", args => makeFloat args
  | "bool", [] => pure (.bool false)
  | "bool", [v] => return .bool (← truth v)
  | "list", [] => Run.allocate (.list [] none)
  | "list", [v] => do Run.allocate (.list (← itemsOf v) none)
  | "tuple", [] => Run.allocate (.tuple [])
  | "tuple", [v] => do
    match ← Run.look fun st => .ok (v.cell? st) with
    | some (.tuple _) => return v
    | _ => Run.allocate (.tuple (← itemsOf v))
  | "set", [] => Run.allocate (.set [])
  | "set", [v] => do
    let vs ← itemsOf v
    Run.allocate (.set (inOrder (← Run.look fun st => distinct st vs)))
  | "frozenset", [] => frozen []
  | "frozenset", [v] => do
    let vs ← itemsOf v
    frozen (inOrder (← Run.look fun st => distinct st vs))
  | "dict", args => makeDict args
  | "bytes", args => makeBytes args
  | "object", [] => Run.allocate (.object (wording "object") (some (wording "<object>")) [])
  | "type", [v] => Run.look fun st => .ok (v.classOf st)
  | "range", args => makeRange args
  | "enumerate", [v] => do once "enumerate" (← numbered 0 (← itemsOf v))
  | "enumerate", [v, start] => match start.asInt? with
    | some n => do once "enumerate" (← numbered n (← itemsOf v))
    | none => throw .wrongType
  | "zip", args => zip args
  | "map", f :: v :: vs => do
    let ls ← (v :: vs).mapM itemsOf
    let n := (ls.map List.length).min?.getD 0
    once "map" (← (columns n ls).mapM fun c => call f c)
  | "filter", [f, v] => do
    let kept ← (← itemsOf v).filterM fun w => do
      truth (← if f = .none then pure w else call f [w])
    once "filter" kept
  | "reversed", [v] => reversed v
  | _, _ => throw .wrongType

def durationLimit : Int := 86399999999999999

def calendar? (name : String) (args : List Value) (named : List (Text × Value)) :
    Option (Except Fault Value) :=
  let moment (y m d : Int) (z : Zone) : Except Fault Value :=
    let date : Date := ⟨y.toNat, m.toNat, d.toNat⟩
    if 1 ≤ y ∧ y ≤ Date.lastYear ∧ 1 ≤ m ∧ m ≤ 12 ∧ 1 ≤ d ∧
        d ≤ Date.monthDays date.year date.month then
      .ok (.moment ⟨date, 0, 0, 0, 0, z⟩)
    else .error .badValue
  match name, args, named with
  | "datetime.datetime", [.int y _, .int m _, .int d _], [] => some (moment y m d .naive)
  | "datetime.datetime", [.int y _, .int m _, .int d _], [(n, .zone z)] =>
    if n = wording "tzinfo" then some (moment y m d z) else none
  | "datetime.timedelta", [], [(n, .int k _)] =>
    if n = wording "milliseconds" then
      some (if k.natAbs ≤ durationLimit then .ok (.duration (k * 1000)) else .error .outOfRange)
    else none
  | "datetime.date.fromordinal", [v], [] => v.asInt?.map fun (n : Int) =>
    match if n < 0 then none else Date.ofOrdinal? n.toNat with
    | some d => .ok (.date d)
    | none => .error .badValue
  | _, _, _ => none

end RenderSource.Builtin
