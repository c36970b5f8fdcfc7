import RenderSource.Code.Term
import RenderSource.Library.ByName
/-!
The value of an expression, given what its names stand for and what calls give. Parts are evaluated
from left to right, what is called before its arguments.
-/
namespace RenderSource

namespace Value

/-- The entries of a new mapping; each key must be fit for one, and of equal keys the last value
counts. -/
def entriesOf (st : Store) (es : List (Value × Value)) : Except Fault (List (Value × Value)) :=
  es.foldlM (fun acc (k, v) =>
    if k.isHashable st then Entries.put st k v acc else .error .wrongType) []

end Value

namespace Term

mutual

def evaluate (e : Env) : Term → Run Value
  | name n => e.read n
  | text t => pure (.ofText t)
  | nat n => pure (.ofInt n)
  | float x => pure (.float x Option.none 0)
  | truth b => pure (.bool b)
  | none => pure .none
  | negative t => do Run.ofExcept (← evaluate e t).negated
  | list items => do Run.allocate (.list (← evaluateAll e items) Option.none)
  | tuple items => do Run.allocate (.tuple (← evaluateAll e items))
  | dict entries => do
    let es ← evaluateEntries e entries
    Run.allocate (.dict (← Run.look fun st => Value.entriesOf st es) Option.none)
  | call f args named => do
    let g ← evaluate e f
    let vs ← evaluateAll e args
    let ns ← evaluateNamed e named
    e.call g vs ns
  | item t key => do
    let v ← evaluate e t
    let k ← evaluate e key
    Run.look fun st => v.itemAtKey st k
  | attr t n => do
    let v ← evaluate e t
    Run.look fun st => v.memberOf st n
  | sum a b => do
    let v ← evaluate e a
    let w ← evaluate e b
    v.plus w
  | denial t => do
    let v ← evaluate e t
    Run.look fun st => .ok (.bool (!v.isTrue st))
  | awaited _ t => evaluate e t
  | yielded _ t => evaluate e t

def evaluateAll (e : Env) : List Term → Run (List Value)
  | [] => pure []
  | t :: ts => do
    let v ← evaluate e t
    return v :: (← evaluateAll e ts)

def evaluateEntries (e : Env) : List (Term × Term) → Run (List (Value × Value))
  | [] => pure []
  | (k, t) :: es => do
    let k ← evaluate e k
    let v ← evaluate e t
    return (k, v) :: (← evaluateEntries e es)

def evaluateNamed (e : Env) : List (Text × Term) → Run (List (Text × Value))
  | [] => pure []
  | (n, t) :: ts => do
    let v ← evaluate e t
    return (n, v) :: (← evaluateNamed e ts)

end

end Term

end RenderSource
