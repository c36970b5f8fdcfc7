import RenderSource.Code.Placement
import RenderSource.Library.Function
/-!
When the names of a source keep clear of those of the library: none hides a name that the library
binds or uses, and those of the library stand only where their values are used in the plainest way.
Then what the library's functions do does not depend on where their names lead.
-/
namespace RenderSource

namespace Term

def isFreeToCall (n : Text) : Bool :=
  (LibraryFunction.ofName? n.normalName).isSome || !Library.binds n.normalName

def isFree (n : Text) : Bool :=
  n.normalName = wording "RENDERER_VERSION" || !Library.binds n.normalName

mutual

/-- Whether names of the library stand only where their values are used in the plainest way: functions
are called, filters are picked by a text, and the calendar module is asked for its parts. -/
def usesLibraryPlainly : Term → Bool
  | name n => isFree n
  | negative a | denial a | awaited _ a | yielded _ a => usesLibraryPlainly a
  | list items | tuple items => allUsePlainly items
  | dict entries => entriesUsePlainly entries
  | call f args named =>
    (match f with
      | name n => isFreeToCall n
      | f => usesLibraryPlainly f) && allUsePlainly args && namedUsePlainly named
  | item a key =>
    (match a, key with
      | name n, text _ => n.normalName = wording "DEFAULT_FILTERS" || isFree n
      | a, _ => usesLibraryPlainly a) && usesLibraryPlainly key
  | attr a _ => match a with
    | name n => n.normalName = wording "datetime" || isFree n
    | a => usesLibraryPlainly a
  | sum a b => usesLibraryPlainly a && usesLibraryPlainly b
  | text _ | nat _ | float _ | truth _ | none => true

def allUsePlainly : List Term → Bool
  | [] => true
  | t :: ts => usesLibraryPlainly t && allUsePlainly ts

def entriesUsePlainly : List (Term × Term) → Bool
  | [] => true
  | (k, v) :: es => usesLibraryPlainly k && usesLibraryPlainly v && entriesUsePlainly es

def namedUsePlainly : List (Text × Term) → Bool
  | [] => true
  | (_, t) :: ts => usesLibraryPlainly t && namedUsePlainly ts

end

end Term

namespace Placed

def usedByLibrary : List String := [
  "getattr", "type", "enumerate", "isinstance", "int", "list", "tuple", "len", "str", "bool", "repr",
  "float", "set", "id", "ord", "super", "ValueError", "Exception", "TypeError" ]

def ownNames (p : Placed) : List Text :=
  match p.statement with
  | .library _ => []
  | .define n parameter => [n.normalName, parameter.normalName]
  | s => s.names

def isLibrary : Statement → Bool
  | .library _ => true
  | _ => false

def libraryInside (ps : List Placed) : Bool := ps.all fun p => !isLibrary p.statement || p.level != 0

/-- The names of a source that could hide one of the library. With the library in functions only, that
of a function outside of them is none: where the library is, its own names come first. -/
def hidingNames (inside : Bool) (p : Placed) : List Text :=
  match p.statement with
  | .define _ parameter => if inside && p.level = 0 then [parameter.normalName] else p.ownNames
  | _ => p.ownNames

def keepsClear (inside : Bool) (p : Placed) : Bool :=
  ((p.hidingNames inside).all fun n => !Library.binds n) &&
    (p.ownNames.all fun n => usedByLibrary.all fun m => wording m != n) &&
      p.statement.term?.all Term.usesLibraryPlainly

end Placed

end RenderSource
