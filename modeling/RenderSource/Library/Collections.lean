import RenderSource.Value.Entries
import RenderSource.Value.Members
/-!
Going through the items of a value, and merging mappings.
-/
namespace RenderSource

namespace Value

/-- The items that a walk over a value meets: characters of a text, bytes as numbers, keys of a
mapping. -/
def iterate (st : Store) : Value → Except Fault (List Value)
  | .text t _ => .ok (t.map fun c => .ofText [c])
  | .bytes bs => .ok (bs.map fun b => .ofInt b.toNat)
  | v => match v.cell? st with
    | some (.list vs _) => .ok vs
    | some (.tuple vs) => .ok vs
    | some (.set vs) => .ok vs
    | some (.dict es _) => .ok (es.map (·.1))
    | some (.proxy es) => .ok (es.map (·.1))
    | some (.series _ _ vs _) => .ok vs
    | _ => .error .wrongType

def visits (answer : Nat → Value) : Nat → List Value → List (Value × Nat)
  | _, [] => []
  | i, v :: vs =>
    (v, i) :: (if answer i = .bool false then [] else visits answer (i + 1) vs)

def each (st : Store) (v : Value) (answer : Nat → Value) : Except Fault (List (Value × Nat)) :=
  if v.isTrue st then return visits answer 0 (← v.iterate st) else .ok []

def contains (st : Store) (v x : Value) : Except Fault Bool := do
  if v.isTrue st then (← v.iterate st).anyM fun item => item.equal st x
  else return false

def assign (st : Store) (target key v : Value) : Except Fault Store :=
  match target with
  | .ref a => match st.get? a with
    | some (.dict es cls) => do
      if !key.isHashable st then throw .wrongType
      return st.set a (.dict (← Entries.put st key v es) cls)
    | some (.list vs cls) => do
      match key.asInt? with
      | .none => throw .wrongType
      | some i =>
        let place := if i < 0 then i + vs.length else i
        if 0 ≤ place ∧ place < vs.length then return st.set a (.list (vs.set place.toNat v) cls)
        else throw .badIndex
    | _ => .error .wrongType
  | _ => .error .wrongType

/-- Copies the present entries of `source` into `target`, also up to a failure. -/
def assignAll (target : Value) : List (Value × Value) → Store → Except Fault Unit × Store
  | [], st => (.ok (), st)
  | (k, v) :: es, st =>
    match assign st target k v with
    | .ok st' => assignAll target es st'
    | .error e => (.error e, st)

/-- Merges the present entries of `source` into `target` in place. -/
def extend (target source : Value) (st : Store) : Except Fault Value × Store :=
  if source.isTrue st then
    match source.entries? st with
    | .none => (.error (source.methodFault st "items"), st)
    | some es =>
      let (r, st') := assignAll target (es.filter fun (_, v) => !v.isAbsent) st
      (r.map fun _ => target, st')
  else (.ok target, st)

end Value

end RenderSource
