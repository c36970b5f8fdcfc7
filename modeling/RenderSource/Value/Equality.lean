import RenderSource.Fault
/-!
Equality of values. Numbers compare exactly across kinds, mappings without regard to order, moments
as instants; plain objects and sentinels are equal only to themselves. Entries and items that are
the same object count as equal, also a NaN.
-/
namespace RenderSource

namespace Value

def plainEqual : Value → Value → Bool
  | .float x _ _, .float y _ _ => x.same y
  | .float x _ _, v => match v.asInt? with
    | some n => x.toInt? = some n
    | .none => false
  | v, .float x _ _ => match v.asInt? with
    | some n => x.toInt? = some n
    | .none => false
  | .text s _, .text t _ => s = t
  | .moment a, .moment b => a.same b
  | a, b => match a.asInt?, b.asInt? with
    | some m, some n => m = n
    | .none, .none => a = b
    | _, _ => false

/-- Equality with at most `fuel` containers inside one another. Only values that contain themselves
can exceed the number of cells. -/
def equalWithin (st : Store) : Nat → Value → Value → Except Fault Bool
  | 0, _, _ => .error .tooDeep
  | fuel + 1, a, b =>
    let agree (x y : Value) : Except Fault Bool :=
      if x = y then .ok true else equalWithin st fuel x y
    let allAgree (xs ys : List Value) : Except Fault Bool :=
      (xs.zip ys).allM fun (x, y) => agree x y
    let sameEntries (es fs : List (Value × Value)) : Except Fault Bool :=
      if es.length = fs.length then
        es.allM fun (k, v) => do
          match ← fs.findM? (fun (k', _) => agree k' k) with
          | some (_, v') => agree v v'
          | .none => return false
      else .ok false
    match a, b with
    | .ref p, .ref q =>
      if p = q then .ok true
      else match st.get? p, st.get? q with
        | some (.list xs _), some (.list ys _) =>
          if xs.length = ys.length then allAgree xs ys else .ok false
        | some (.tuple xs), some (.tuple ys) => do
          return (← allAgree xs ys) && xs.length = ys.length
        | some (.set xs), some (.set ys) =>
          if xs.length = ys.length then allAgree xs ys else .ok false
        | some (.dict es _), some (.dict fs _) => sameEntries es fs
        | some (.dict es _), some (.proxy fs) => sameEntries es fs
        | some (.proxy es), some (.dict fs _) => sameEntries es fs
        | some (.proxy es), some (.proxy fs) => sameEntries es fs
        | _, _ => .ok false
    | a, b => .ok (plainEqual a b)

def equal (st : Store) (a b : Value) : Except Fault Bool := equalWithin st (st.size + 2) a b

/-- Same object or equal: how items of containers and keys are compared. -/
def agrees (st : Store) (a b : Value) : Except Fault Bool :=
  if a = b then .ok true else equal st a b

def hashableWithin (st : Store) : Nat → Value → Bool
  | 0, _ => false
  | fuel + 1, v => match v.cell? st with
    | .none => true
    | some (.tuple vs) => vs.all (hashableWithin st fuel)
    | some (.list _ _) | some (.dict _ _) | some (.proxy _) | some (.set _) => false
    | some _ => true

def isHashable (st : Store) (v : Value) : Bool := hashableWithin st (st.size + 1) v

end Value

end RenderSource
