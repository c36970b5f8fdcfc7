import RenderSource.Library.Filters
import RenderSource.Library.Lookup
import RenderSource.Library.Collections
import RenderSource.Literal.Write
import RenderSource.Run
/-!
What the functions of the library give when every name in them means what it is meant to. A function
works on the values in a store, and `extend` changes the store.
-/
namespace RenderSource

namespace LibraryFunction

def ofName? (t : Text) : Option LibraryFunction := all.find? fun h => wording h.name = t

def filter? (name : Text) : Option LibraryFunction :=
  (filters.find? fun (n, _) => wording n = name).map (·.2)

def literalOf (st : Store) (v : Value) : Except Fault Text := (v.literal st).mapError .offence

/-- The calls inside one another that there can be, less those around the walk where the function is called
outside of functions. -/
def callRoom : Nat := 996

def literalFault : Offence → Fault
  | .deep _ => .tooDeep
  | o => .offence o

/-- What the function for literals gives. The walk is recursive, so it goes no deeper than calls can. -/
def boundedLiteral (st : Store) (v : Value) : Except Fault Text :=
  (v.literalIn callRoom st).mapError literalFault

def callEach (call : List Value → Run Value) : Nat → List Value → Run Unit
  | _, [] => pure ()
  | i, v :: vs => do
    let answer ← call [v, .ofInt i]
    if answer = .bool false then pure () else callEach call (i + 1) vs

/-- The answer to a call; another number of arguments than the function takes is a wrong type.
`call` is for functions among the arguments. -/
def apply (call : Value → List Value → Run Value) (h : LibraryFunction) (args : List Value) :
    Run Value :=
  match h, args with
  | isUndefined, [v] => pure (.bool v.isAbsent)
  | each, [items, f] => do
    let met ← Run.look fun st => if items.isTrue st then items.iterate st else .ok []
    callEach (call f) 0 met
    return .none
  | contains, [items, v] => Run.look fun st => return .bool (← items.contains st v)
  | extend, [target, source] => Run.change fun st => target.extend source st
  | lookup, v :: path => Run.look fun st => v.lookup st path
  | escapeHtml, [v] => Run.look fun st => return .ofText (← v.escapeHtml st)
  | toText, [v] => Run.look fun st => return .ofText (← v.toText st)
  | filterUrl, [v] => Run.look fun st => v.filterUrl st
  | filterClass, [v] => Run.look fun st => v.filterClass st
  | filterStyle, [v] => Run.look fun st => v.filterStyle st
  | filterSep, [v, sep] => Run.look fun st => v.filterSep st sep
  | markupAttribute, [name, v] => Run.look fun st => name.markupAttribute st v
  | markupFlag, [name, v] => Run.look fun st => name.markupFlag st v
  | quote, [v] => match v.asText? with
    | some t => pure (.ofText t.quote)
    | none => throw .wrongType
  | literal, [v] => Run.look fun st => return .ofText (← boundedLiteral st v)
  | momentLiteral, [v] => match v with
    | .moment m => pure (.ofText m.literal)
    | .zone _ => throw .wrongType
    | v => Run.look fun st => .error (v.methodFault st "utcoffset")
  | dateLiteral, [v] => match v with
    | .moment m => pure (.ofText m.date.literal)
    | .date d => pure (.ofText d.literal)
    | v => Run.look fun st => .error (v.methodFault st "toordinal")
  | _, _ => throw .wrongType

end LibraryFunction

end RenderSource
