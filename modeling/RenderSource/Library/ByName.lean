import RenderSource.Library.Function
import RenderSource.Text.Percent
import RenderSource.Value.Classes
import RenderSource.Value.Operators
/-!
The functions of the library as their own text runs: every name in it is looked up when it is met.
Source that gives one of these names another meaning changes what the functions do.
-/
namespace RenderSource

/-- What code can reach: the values of names, and what calling a value gives. -/
structure Env where
  read : Text → Run Value
  call : Value → List Value → List (Text × Value) → Run Value

namespace Env

def named (e : Env) (name : String) : Run Value := e.read (wording name)

/-- Calls what a name stands for. The name is looked up first. -/
def callNamed (e : Env) (name : String) (args : List Value) : Run Value := do
  e.call (← e.named name) args []

def truth (v : Value) : Run Bool := Run.look fun st => .ok (v.isTrue st)

def textOf (v : Value) : Run Text := Run.look fun st => v.plainText st

def itemsOf (v : Value) : Run (List Value) := Run.look fun st => v.iterate st

def callMember (e : Env) (v : Value) (name : String) (args : List Value) : Run Value := do
  e.call (← Run.look fun st => v.memberOf st (wording name)) args []

def isUndefined (e : Env) (v : Value) : Run Bool := do truth (← e.callNamed "is_undefined" [v])

def isMissing (e : Env) (v : Value) : Run Bool :=
  if v = .none then pure true else e.isUndefined v

def isOf (e : Env) (v : Value) (cls : String) : Run Bool := do
  let test ← e.named "isinstance"
  truth (← e.call test [v, ← e.named cls] [])

def isSequence (e : Env) (v : Value) : Run Bool := do
  let test ← e.named "isinstance"
  let classes ← Run.allocate (.tuple [← e.named "list", ← e.named "tuple"])
  truth (← e.call test [v, classes] [])

def part (v : Value) (name : String) : Run Value := Run.look fun st => v.memberOf st (wording name)

def isOfCalendar (e : Env) (v : Value) (cls : String) : Run Bool := do
  let test ← e.named "isinstance"
  truth (← e.call test [v, ← part (← e.named "datetime") cls] [])

def entriesOf (e : Env) (v : Value) : Run (List (Value × Value)) := do
  match ← Run.look fun st => .ok (v.entries? st) with
  | some es => return es
  | none =>
    let r ← itemsOf (← e.callMember v "items" [])
    r.mapM fun p => do
      match ← itemsOf p with
      | [k, w] => return (k, w)
      | _ => throw .badValue

/-- Raises what calling a name gives; only exceptions can be raised. -/
def raiseNamed (e : Env) (name : String) (args : List Value) : Run α := do
  let v ← e.callNamed name args
  match ← Run.look fun st => .ok (v.cell? st) with
  | some (.exception _ _ _ _) => throw (.raised v)
  | _ => throw .wrongType

def joined (sep : String) (vs : List Value) : Run Text :=
  match vs.mapM Value.asText? with
  | some ts => pure (Text.joinWith (wording sep) ts)
  | none => throw .wrongType

end Env

namespace ByName

open Env

def text (s : String) : Value := .ofText (wording s)

def isUndefined (e : Env) (v : Value) : Run Value := do
  let cls ← e.callNamed "type" [v]
  let mark ← e.callNamed "getattr" [cls, text "__undefined__", .bool false]
  return .bool (mark = .bool true)

def visitAll (e : Env) (f : Value) : List Value → Run Unit
  | [] => pure ()
  | p :: ps => do
    match ← itemsOf p with
    | [i, v] =>
      let answer ← e.call f [v, i] []
      if answer = .bool false then pure () else visitAll e f ps
    | _ => throw .badValue

def each (e : Env) (items f : Value) : Run Value := do
  if ← truth items then visitAll e f (← itemsOf (← e.callNamed "enumerate" [items]))
  return .none

def extendAll (e : Env) (target : Value) : List (Value × Value) → Run Unit
  | [] => pure ()
  | (k, v) :: es => do
    if !(← e.isUndefined v) then
      Run.change fun st => match Value.assign st target k v with
        | .ok st' => (.ok (), st')
        | .error f => (.error f, st)
    extendAll e target es

def extend (e : Env) (target source : Value) : Run Value := do
  if ← truth source then extendAll e target (← e.entriesOf source)
  return target

def getFrom (e : Env) (v key : Value) : Run Value := do
  match ← Run.look fun st => .ok (v.entries? st) with
  | some es => Run.look fun st => do
    if !key.isHashable st then throw .wrongType
    return (← Entries.find? st es key).getD .none
  | none => e.callMember v "get" [key]

def beginsLow (e : Env) (key : Value) : Run Bool :=
  match key with
  | .text t _ => pure t.isPrivate
  | .bytes _ => throw .wrongType
  | v => do truth (← e.callMember v "startswith" [text "_"])

/-- Whether an index falls inside a sequence, by the length that is given for it. -/
def isInside (e : Env) (v key : Value) : Run Bool := do
  let back ← Run.ofExcept (← e.callNamed "len" [v]).negated
  if ← Run.look fun st => Value.atMost st back key then
    let length ← e.callNamed "len" [v]
    Run.look fun st => Value.less st key length
  else return false

def step (e : Env) (v key : Value) : Run (Option Value) := do
  if ← e.isOf v "Mapping" then return some (← getFrom e v key)
  let indexed ← if ← e.isOf key "int" then e.isSequence v else pure false
  if indexed then
    if ← isInside e v key then return some (← Run.look fun st => v.itemAtKey st key)
    else return some .none
  let named ← if ← e.isOf key "str" then (! ·) <$> beginsLow e key else pure false
  if named then return some (← e.callNamed "getattr" [v, key, .none])
  return none

def lookup (e : Env) (v : Value) : List Value → Run Value
  | [] => do
    if ← e.isUndefined v then return .none
    return v
  | key :: path => do
    if ← e.isMissing v then return .none
    match ← step e v key with
    | some w => lookup e w path
    | none => return .none

def replacement (table : Value) (c : CodePoint) : Run Text :=
  Run.look fun st =>
    match table.itemAtKey st (.ofInt c.val) with
    | .error .missingKey | .error .badIndex => .ok [c]
    | .error f => .error f
    | .ok .none => .ok []
    | .ok (.text t _) => .ok t
    | .ok v => match v.asInt? with
      | some n => match (if n < 0 then none else CodePoint.ofNat? n.toNat) with
        | some d => .ok [d]
        | none => .error .badValue
      | none => .error .wrongType

def escapeHtml (e : Env) (v : Value) : Run Value := do
  if ← e.isMissing v then return text ""
  match (← e.callNamed "str" [v]).asText? with
  | none => throw .noAttribute
  | some t =>
    let table ← e.named "_HTML_ESCAPES"
    return .ofText (← t.mapM (replacement table)).flatten

def toText (e : Env) (v : Value) : Run Value := do
  if ← e.isMissing v then return text "" else e.callNamed "str" [v]

def filterUrl (e : Env) (v : Value) : Run Value := do
  if ← e.isMissing v then return text ""
  let write ← e.named "_quote_component"
  e.call write [← e.callNamed "str" [v]] [(wording "safe", text "!~*'()")]

def filterClass (e : Env) (v : Value) : Run Value := do
  if ← e.isSequence v then
    let parts ← (← itemsOf v).mapM fun item =>
      if item = .none then pure (text "") else e.callNamed "str" [item]
    return .ofText (← joined " " parts)
  return v

def filterStyle (e : Env) (v : Value) : Run Value := do
  if ← e.isOf v "Mapping" then
    let parts ← (← e.entriesOf v).mapM fun (k, item) => do
      return (← textOf k) ++ wording ":" ++ (← textOf item) ++ wording ";"
    return .ofText parts.flatten
  if ← e.isMissing v then return text ""
  return if ← truth v then v else text ""

def matched (e : Env) : Value → Run Value
  | .entity (.found c _) => pure (.ofText [c])
  | v => e.callMember v "group" []

def escapeMatch (e : Env) (m : Value) : Run Value := do
  let c ← matched e m
  let known ← getFrom e (← e.named "_LITERAL_ESCAPES") c
  if known != .none then return known
  let code ← e.callNamed "ord" [c]
  let wide ← Run.look fun st => Value.atMost st (.ofInt 0xD800) code
  match code.asInt? with
  | none => throw .badValue
  | some n =>
    if wide then return .ofText (wording "\\u" ++ Decimal.hexPadded 4 n.toNat)
    else return .ofText (wording "\\x" ++ Decimal.hexPadded 2 n.toNat)

def templateEscapes : List (Char × Char) :=
  [ ('n', '\n'), ('t', '\t'), ('r', '\r'), ('a', '\x07'), ('b', '\x08'), ('f', '\x0c'),
    ('v', '\x0b'), ('\\', '\\') ]

/-- The text that a template of a replacement stands for; escapes of letters it does not know, and
references to groups, are refused. -/
def template : Text → Except Fault Text
  | [] => .ok []
  | .scalar '\\' :: [] => .error .badTemplate
  | .scalar '\\' :: c :: t => do
    let rest ← template t
    match templateEscapes.find? fun (k, _) => c = .scalar k with
    | some (_, d) => return .scalar d :: rest
    | none =>
      if c.val < 0x80 && (Char.ofNat c.val).isAlphanum then throw .badTemplate
      else return .scalar '\\' :: c :: rest
  | c :: t => do return c :: (← template t)

/-- Replaces what a literal cannot hold; a function is asked for each replacement, and None leaves
nothing. -/
def replaceUnsafe (e : Env) (f : Value) (place : Nat) : Text → Run Text
  | [] => pure []
  | c :: t => do
    let here ← if Text.unsafeInLiteral c then do
        match ← e.call f [.entity (.found c place)] [] with
        | .none => pure []
        | v => match v.asText? with
          | some r => pure r
          | none => throw .wrongType
      else pure [c]
    return here ++ (← replaceUnsafe e f (place + 1) t)

def quote (e : Env) (source : Value) : Run Value := do
  let pattern ← e.named "_LITERAL_UNSAFE"
  if pattern != .entity .unsafePattern then throw .noAttribute
  let writer ← e.named "_escape_literal_char"
  let fixed ← Run.ofExcept (writer.asText?.mapM template)
  match source.asText?, fixed with
  | none, _ => throw .wrongType
  | some t, some r =>
    return .ofText (wording "\"" ++
      t.flatMap (fun c => if Text.unsafeInLiteral c then r else [c]) ++ wording "\"")
  | some t, none => return .ofText (wording "\"" ++ (← replaceUnsafe e writer 0 t) ++ wording "\"")

def millisSince (e : Env) (m : Moment) (epoch : String) : Run Int := do
  match ← e.named epoch with
  | .moment z =>
    match ← e.named "_MILLISECOND" with
    | .duration n => if n = 0 then throw .divisionByZero else return (m.micros - z.micros).fdiv n
    | _ => throw .wrongType
  | _ => throw .wrongType

def momentLiteral (e : Env) (v : Value) : Run Value :=
  match v with
  | .moment m => do
    let (front, epoch) := match m.zone.offset? with
      | none => ("datetime.datetime(1970, 1, 1)", "_EPOCH")
      | some _ => ("datetime.datetime(1970, 1, 1, tzinfo=datetime.timezone.utc)", "_EPOCH_UTC")
    let n ← millisSince e m epoch
    return .ofText (wording front ++ wording " + datetime.timedelta(milliseconds=" ++
      Decimal.ofInt n ++ wording ")")
  | .zone _ => throw .wrongType
  | v => do
    if (← e.callMember v "utcoffset" []) = .none then throw .noAttribute else throw .wrongType

def dateLiteral (e : Env) (v : Value) : Run Value := do
  let n ← match v with
    | .moment m => pure (Decimal.ofNat m.date.ordinal)
    | .date d => pure (Decimal.ofNat d.ordinal)
    | v => textOf (← e.callMember v "toordinal" [])
  return .ofText (wording "datetime.date.fromordinal(" ++ n ++ wording ")")

def literal (e : Env) (v : Value) : Run Value := do
  let inside ← e.named "_stringify"
  e.call inside [v, ← e.callNamed "set" []] []

def intLiteral (e : Env) (v : Value) : Run Value :=
  let attempt : Run Value := do
    let writer ← e.named "repr"
    e.call writer [← e.callNamed "int" [v]] []
  fun st => attempt.recover (fun f => if f.isBadValue st then
    some (e.raiseNamed "UnsupportedValueKind" [v, text "integer too large"]) else none) st

def floatLiteral (e : Env) (v : Value) : Run Value := do
  let test ← part (← e.named "math") "isfinite"
  if !(← truth (← e.call test [v] [])) then e.raiseNamed "NonFiniteNumber" [v]
  else
    let writer ← e.named "repr"
    e.call writer [← e.callNamed "float" [v]] []

def literalInside (e : Env) (v opened : Value) : Run Value := do
  if ← e.isOf v "str" then e.callNamed "quote_string_literal" [v]
  else if ← e.isMissing v then return text "None"
  else if ← e.isOf v "bool" then return text (if ← truth v then "True" else "False")
  else if ← e.isOf v "int" then intLiteral e v
  else if ← e.isOf v "float" then floatLiteral e v
  else if ← e.isOfCalendar v "datetime" then e.callNamed "stringify_datetime" [v]
  else if ← e.isOfCalendar v "date" then e.callNamed "stringify_date" [v]
  else if ← e.isSequence v then e.callNamed "_stringify_array" [v, opened]
  else if ← e.isOf v "Mapping" then e.callNamed "_stringify_mapping" [v, opened]
  else e.raiseNamed "UnsupportedValueKind" [v]

def addMark (e : Env) (opened mark : Value) : Run Unit := do
  match opened, ← Run.look fun st => .ok (opened.cell? st) with
  | .ref a, some (.set vs) =>
    Run.change fun st =>
      if !mark.isHashable st then (.error .wrongType, st)
      else match vs.anyM fun w => w.agrees st mark with
        | .ok true => (.ok (), st)
        | .ok false => (.ok (), st.set a (.set (vs ++ [mark])))
        | .error f => (.error f, st)
  | _, _ => let _ ← e.callMember opened "add" [mark]

def dropMark (e : Env) (opened mark : Value) : Run Unit := do
  match opened, ← Run.look fun st => .ok (opened.cell? st) with
  | .ref a, some (.set vs) =>
    Run.change fun st =>
      match vs.filterM fun w => do return !(← w.agrees st mark) with
      | .ok ws => (.ok (), st.set a (.set ws))
      | .error f => (.error f, st)
  | _, _ => let _ ← e.callMember opened "discard" [mark]

/-- Marks a container as open while `inner` runs; one that is open already is a cycle. -/
def whileOpen (e : Env) (source opened : Value) (inner : Run Text) : Run Value := do
  let mark ← e.callNamed "id" [source]
  if ← Run.look fun st => opened.holds st mark then e.raiseNamed "CyclicStructure" [source]
  else
    addMark e opened mark
    let t ← inner
    dropMark e opened mark
    return .ofText t

def listLiteral (e : Env) (source opened : Value) : Run Value :=
  whileOpen e source opened do
    let parts ← (← itemsOf source).mapM fun item => e.callNamed "_stringify" [item, opened]
    return wording "[" ++ (← joined "," parts) ++ wording "]"

def entryLiteral (e : Env) (opened : Value) (k v : Value) : Run (List Value) := do
  if ← e.isUndefined v then return []
  if !(← e.isOf k "str") then
    e.raiseNamed "UnsupportedValueKind" [k, text "mapping keys must be strings"]
  else
    let front ← Value.plus (← e.callNamed "quote_string_literal" [k]) (text ":")
    return [← Value.plus front (← e.callNamed "_stringify" [v, opened])]

def mappingLiteral (e : Env) (source opened : Value) : Run Value :=
  whileOpen e source opened do
    let parts ← (← e.entriesOf source).mapM fun (k, v) => entryLiteral e opened k v
    return wording "\x7b" ++ (← joined "," parts.flatten) ++ wording "\x7d"

/-- Runs a function by the names that `e` gives it. -/
def run (e : Env) (r : Routine) (args : List Value) : Run Value :=
  match r, args with
  | .library .isUndefined, [v] => isUndefined e v
  | .library .each, [items, f] => each e items f
  | .library .extend, [target, source] => extend e target source
  | .library .lookup, v :: path => lookup e v path
  | .library .escapeHtml, [v] => escapeHtml e v
  | .library .toText, [v] => toText e v
  | .library .filterUrl, [v] => filterUrl e v
  | .library .filterClass, [v] => filterClass e v
  | .library .filterStyle, [v] => filterStyle e v
  | .library .quote, [v] => quote e v
  | .library .literal, [v] => literal e v
  | .library .momentLiteral, [v] => momentLiteral e v
  | .library .dateLiteral, [v] => dateLiteral e v
  | .literalInside, [v, opened] => literalInside e v opened
  | .listLiteral, [v, opened] => listLiteral e v opened
  | .mappingLiteral, [v, opened] => mappingLiteral e v opened
  | .escapeMatch, [m] => escapeMatch e m
  | .library f, args => f.apply (fun g vs => e.call g vs []) args
  | _, _ => throw .wrongType

end ByName

end RenderSource
