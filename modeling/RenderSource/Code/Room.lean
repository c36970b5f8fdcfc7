import RenderSource.Code.Term
/-!
Room for reading. A term is read by rules inside rules; how deep they go depends on the brackets in it and on
the place behind each bracket, for an item behind a comma is read one rule further in than the first one. Only
so many rules can be open at once.
-/
namespace RenderSource

namespace Term

mutual

/-- The rules inside one another that reading a term takes beyond those for a name. No more than `left` of
its brackets are opened, for then reading stops at the next one. -/
def rungs (left : Nat) : Term → Nat
  | name _ | nat _ | float _ | truth _ | none => 0
  | text _ => 2
  | negative t | denial t => rungs left t + 1
  | attr t _ | awaited _ t | yielded _ t => rungs left t
  | list items | tuple items => match left with
    | 0 => 0
    | left + 1 => max 29 (rungsOfAll left 29 30 items)
  | dict entries => match left with
    | 0 => 0
    | left + 1 => max 29 (rungsOfEntries left 29 30 entries)
  | call f args named => max (rungs left f) (match left with
    | 0 => 0
    | left + 1 =>
      let behind := rungsOfNamed left (if args.isEmpty then 27 else 28) 28 named
      max 24 (max (rungsOfAll left 24 28 args) behind))
  | item t key => max (rungs left t) (match left with
    | 0 => 0
    | left + 1 => 24 + rungs left key)
  | sum a b => max (rungs left a) (rungs left b)

/-- Items between commas, the first of which is read inside `first` rules and the others inside `next`. -/
def rungsOfAll (left first next : Nat) : List Term → Nat
  | [] => 0
  | t :: ts => max (first + rungs left t) (rungsOfAll left next next ts)

def rungsOfEntries (left first next : Nat) : List (Term × Term) → Nat
  | [] => 0
  | (k, t) :: es => max (first + max (rungs left k) (rungs left t)) (rungsOfEntries left next next es)

def rungsOfNamed (left first next : Nat) : List (Text × Term) → Nat
  | [] => 0
  | (_, t) :: ts => max (first + rungs left t) (rungsOfNamed left next next ts)

end

end Term

end RenderSource
