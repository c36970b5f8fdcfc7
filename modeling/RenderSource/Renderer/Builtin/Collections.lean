import RenderSource.Library.ByName
/-!
Collections that are made from the items of others, put in order, counted and gone through.
-/
namespace RenderSource.Builtin

open Env

def once (kind : String) (vs : List Value) : Run Value :=
  Run.allocate (.series (wording kind) none vs true)

def pairOf (a b : Value) : Run Value := Run.allocate (.tuple [a, b])

def numbered (start : Int) : List Value → Run (List Value)
  | [] => pure []
  | v :: vs => do return (← pairOf (.ofInt start) v) :: (← numbered (start + 1) vs)

def distinct (st : Store) (vs : List Value) : Except Fault (List Value) :=
  vs.foldlM (fun acc v => do
    if !v.isHashable st then throw .wrongType
    if ← acc.anyM fun w => w.agrees st v then return acc else return acc ++ [v]) []

/-- Small numbers stand in a set in their order; of other items the order is left as it comes. -/
def inOrder (vs : List Value) : List Value :=
  if vs.all fun v => v.asInt?.any fun n => decide (0 ≤ n ∧ n < 8) then
    vs.mergeSort fun v w => decide (v.asInt?.getD 0 ≤ w.asInt?.getD 0)
  else vs

def entriesFrom (st : Store) (pairs : List (List Value)) : Except Fault (List (Value × Value)) :=
  pairs.foldlM (fun acc p => match p with
    | [k, v] => if k.isHashable st then Entries.put st k v acc else .error .wrongType
    | _ => .error .badValue) []

def insertSorted (st : Store) (v : Value) : List Value → Except Fault (List Value)
  | [] => .ok [v]
  | w :: ws => do
    if ← v.less st w then return v :: w :: ws else return w :: (← insertSorted st v ws)

def sortValues (st : Store) (vs : List Value) : Except Fault (List Value) :=
  vs.foldlM (fun acc v => insertSorted st v acc) []

def best (goesBefore : Value → Value → Except Fault Bool) (v : Value) (vs : List Value) :
    Except Fault Value :=
  vs.foldlM (fun acc w => do if ← goesBefore w acc then return w else return acc) v

def countFrom (start step : Int) (count : Nat) : List Value :=
  (List.range count).map fun (i : Nat) => .ofInt (start + step * (i : Int))

/-- The most items that a run of integers is listed with. -/
def rangeLimit : Nat := 1000000

def rangeOf (start stop step : Int) : Run Value := do
  if step = 0 then throw .badValue
  let width := if 0 < step then stop - start else start - stop
  let count := if width ≤ 0 then 0 else ((width - 1) / step.natAbs + 1).toNat
  let ends := [start, stop] ++ (if step = 1 then [] else [step])
  let shown := wording "range(" ++ commaSeparated (ends.map Decimal.ofInt) ++ wording ")"
  Run.allocate (.series (wording "range") (some shown)
    (countFrom start step (min count rangeLimit)) false)

def total (start : Value) (vs : List Value) : Run Value :=
  vs.foldlM Value.plus start

def length (st : Store) (v : Value) : Except Fault Value :=
  match v.cell? st with
  | some (.series _ _ vs false) => .ok (.ofInt vs.length)
  | some (.series _ _ _ true) => .error .wrongType
  | _ => match v.entries? st with
    | some es => .ok (.ofInt es.length)
    | none => return .ofInt (← v.iterate st).length

def next (v : Value) (otherwise : Option Value) : Run Value := fun st =>
  match v, v.cell? st with
  | .ref a, some (.series kind shown (w :: ws) true) =>
    (.ok w, st.set a (.series kind shown ws true))
  | _, some (.series _ _ [] true) => match otherwise with
    | some w => (.ok w, st)
    | none => (.error .exhausted, st)
  | _, _ => (.error .wrongType, st)

def columns : Nat → List (List Value) → List (List Value)
  | 0, _ => []
  | n + 1, ls => ls.filterMap List.head? :: columns n (ls.map (List.drop 1))

def zip (args : List Value) : Run Value := do
  let ls ← args.mapM itemsOf
  let n := (ls.map List.length).min?.getD 0
  once "zip" (← (columns n ls).mapM fun c => Run.allocate (.tuple c))

def reversed (v : Value) : Run Value := do
  match ← Run.look fun st => .ok (v.cell? st) with
  | some (.set _) | some (.proxy _) | some (.series _ _ _ true) => throw .wrongType
  | _ =>
    let kind ← Run.look fun st => .ok (v.kind st)
    let name := if kind = wording "list" then "list_reverseiterator" else "reversed"
    once name (← itemsOf v).reverse

def frozen (vs : List Value) : Run Value := do
  let shown ← vs.mapM fun v => Run.look fun st => v.shown st
  let inside := if shown.isEmpty then [] else
    wording "\x7b" ++ commaSeparated shown ++ wording "\x7d"
  Run.allocate (.series (wording "frozenset")
    (some (wording "frozenset(" ++ inside ++ wording ")")) vs false)

end RenderSource.Builtin
