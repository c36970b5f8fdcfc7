import RenderSource.Library.Source
import RenderSource.Text.Identifier
import RenderSource.Value.Wording
/-!
Configurations: the names and the layout of a render function. A configuration is checked once, so
its names are identifiers and neither the parameter nor the output variable hides a library name.
-/
namespace RenderSource

structure ConfigInput where
  functionName : Value := .ofText (wording "render")
  dataName : Value := .ofText (wording "data")
  accumulator : Value := .ofText (wording "html")
  indentWidth : Value := .ofInt 4
  version : Value := .none

structure Config where
  functionName : Text
  dataName : Text
  /-- The variable that collects output. -/
  accumulator : Text
  indentWidth : Value
  version : Option Text
  deriving DecidableEq, Repr

namespace Config

def standard : Config :=
  ⟨wording "render", wording "data", wording "html", .ofInt 4, none⟩

def refuse (st : Store) (field : String) (v : Value) (rule : ConfigRule) : Except Fault α := do
  throw (.config field (← v.shown st) rule)

/-- A name that can be written and, unless `libraryToo`, is none of the library's. -/
def checkName (st : Store) (field : String) (libraryToo : Bool) (v : Value) : Except Fault Text :=
  match v.asText? with
  | none => refuse st field v .identifier
  | some t =>
    if !t.isIdentifier then refuse st field v .identifier
    else if t.isReserved then refuse st field v .reserved
    else if !libraryToo && Library.binds t then refuse st field v .libraryName
    else .ok t

def belowOne : Value → Except Fault Bool
  | .float x _ _ => .ok x.lessThanOne
  | v => match v.asInt? with
    | some n => .ok (decide (n < 1))
    | none => .error .wrongType

def checkWidth (st : Store) (v : Value) : Except Fault Value := do
  if ← belowOne v then refuse st "indent_width" v .indentWidth else return v

def checkVersion (st : Store) (v : Value) : Except Fault (Option Text) :=
  match v with
  | .none => .ok none
  | v => match v.asText? with
    | some t => .ok (some t)
    | none => refuse st "version" v .version

/-- The first broken rule in the order of the fields is reported. -/
def check (st : Store) (c : ConfigInput) : Except Fault Config := do
  let functionName ← checkName st "function_name" true c.functionName
  let dataName ← checkName st "data_name" false c.dataName
  let accumulator ← checkName st "accumulator" false c.accumulator
  if dataName = accumulator then refuse st "accumulator" c.accumulator .distinctNames
  let indentWidth ← checkWidth st c.indentWidth
  let version ← checkVersion st c.version
  return { functionName, dataName, accumulator, indentWidth, version }

end Config

def sizeLimit : Nat := 0x8000000000000000

def memoryLimit : Nat := 0x10000000000

/-- A text `n` times over; a negative count gives none. -/
def repeated (t : Text) (n : Value) : Except Fault Text :=
  match n.asInt? with
  | none => .error .wrongType
  | some n =>
    if (sizeLimit : Int) ≤ n ∨ n < -(sizeLimit : Int) then .error .outOfRange
    else if sizeLimit ≤ n.toNat * t.length then .error .outOfMemory
    else if memoryLimit ≤ n.toNat * t.length then .error .outOfMemory
    else .ok (List.replicate n.toNat t).flatten

/-- The blanks of one level. A width that is no integer has none. -/
def Config.indentUnit (c : Config) : Except Fault Text := repeated (wording " ") c.indentWidth

end RenderSource
