import RenderSource.Value.Entries
import RenderSource.Value.Members
import RenderSource.Run
/-!
Operators on values of any kind: items by key or index, membership, order, sums and negation. Kinds
that an operator does not fit are a wrong type.
-/
namespace RenderSource.Value

def placeOf? (length : Nat) (i : Int) : Option Nat :=
  let place := if i < 0 then i + length else i
  if 0 ≤ place ∧ place < length then some place.toNat else .none

def itemIn (vs : List Value) (key : Value) : Except Fault Value :=
  match key.asInt? with
  | .none => .error .wrongType
  | some i => match placeOf? vs.length i with
    | some n => .ok (vs.getD n .none)
    | .none => .error .badIndex

def itemAtKey (st : Store) (v key : Value) : Except Fault Value :=
  match v with
  | .text t _ => itemIn (t.map fun c => .ofText [c]) key
  | .bytes bs => itemIn (bs.map fun b => .ofInt b.toNat) key
  | .entity .filters => match key with
    | .text t _ => match LibraryFunction.filters.find? fun (n, _) => wording n = t with
      | some (_, f) => .ok (.entity (.function (.library f) .none))
      | .none => .error .missingKey
    | _ => .error .missingKey
  | v => match v.cell? st with
    | some (.list vs _) | some (.tuple vs) => itemIn vs key
    | some (.series _ _ vs false) => itemIn vs key
    | some (.dict es _) | some (.proxy es) => do
      if !key.isHashable st then throw .wrongType
      match ← Entries.find? st es key with
      | some w => return w
      | .none => throw .missingKey
    | _ => .error .wrongType

def holds (st : Store) (v x : Value) : Except Fault Bool :=
  let among (vs : List Value) : Except Fault Bool := vs.anyM fun w => w.agrees st x
  match v with
  | .text t _ => match x.asText? with
    | some p => .ok (Text.includes p t)
    | .none => .error .wrongType
  | .bytes bs => match x.asInt? with
    | some n => if 0 ≤ n ∧ n < 256 then .ok (bs.any fun b => (b.toNat : Int) = n) else .error .badValue
    | .none => .error .wrongType
  | v => match v.cell? st with
    | some (.list vs _) | some (.tuple vs) | some (.series _ _ vs _) => among vs
    | some (.set vs) => if x.isHashable st then among vs else .error .wrongType
    | some (.dict es _) | some (.proxy es) =>
      if x.isHashable st then among (es.map (·.1)) else .error .wrongType
    | _ => .error .wrongType

def lessNumber? (a b : Value) : Option Bool :=
  match a, b with
  | .float x _ _, .float y _ _ => some (x.less y)
  | .float x _ _, b => b.asInt?.map x.lessThanInt
  | a, .float y _ _ => a.asInt?.map y.moreThanInt
  | a, b => do return decide ((← a.asInt?) < (← b.asInt?))

def textLess (s t : Text) : Bool := s != t && Text.precedes s t

/-- Order of dates, and of moments that agree in having an offset. -/
def lessTime? : Value → Value → Option Bool
  | .date a, .date b => some (decide (a.ordinal < b.ordinal))
  | .moment a, .moment b =>
    if a.zone.offset?.isSome = b.zone.offset?.isSome then some (decide (a.micros < b.micros))
    else .none
  | .duration a, .duration b => some (decide (a < b))
  | _, _ => .none

/-- Order with at most `fuel` sequences inside one another; the first items that differ decide. -/
def lessWithin (st : Store) : Nat → Value → Value → Except Fault Bool
  | 0, _, _ => .error .tooDeep
  | fuel + 1, a, b =>
    let lists (xs ys : List Value) : Except Fault Bool := do
      match ← (xs.zip ys).findM? fun (x, y) => do return !(← x.agrees st y) with
      | some (x, y) => lessWithin st fuel x y
      | .none => return decide (xs.length < ys.length)
    match a, b with
    | .text s _, .text t _ => .ok (textLess s t)
    | .bytes s, .bytes t => .ok (decide (s.map UInt8.toNat < t.map UInt8.toNat))
    | a, b =>
      match (lessNumber? a b).or (lessTime? a b), a.cell? st, b.cell? st with
      | some r, _, _ => .ok r
      | _, some (.list xs _), some (.list ys _) => lists xs ys
      | _, some (.tuple xs), some (.tuple ys) => lists xs ys
      | _, _, _ => .error .wrongType

def less (st : Store) (a b : Value) : Except Fault Bool := lessWithin st (st.size + 1) a b

def atMost (st : Store) (a b : Value) : Except Fault Bool := do
  if ← less st a b then return true else equal st a b

def asFloat? : Value → Option Binary64
  | .float x _ _ => some x
  | v => v.asInt?.map fun n => Binary64.nearestInt n 1

def negated : Value → Except Fault Value
  | .float x _ m => .ok (.float x.negate .none m)
  | .duration n => .ok (.duration (-n))
  | v => match v.asInt? with
    | some n => .ok (.ofInt (-n))
    | .none => .error .wrongType

def plus (a b : Value) : Run Value := fun st =>
  let done (v : Value) : Except Fault Value × Store := (.ok v, st)
  match a, b with
  | .text s _, .text t _ => done (.ofText (s ++ t))
  | .bytes s, .bytes t => done (.bytes (s ++ t))
  | .duration m, .duration n => done (.duration (m + n))
  | .moment m, .duration n | .duration n, .moment m =>
    match Moment.ofClockMicros? m.zone (m.clockMicros + n) with
    | some m => done (.moment m)
    | .none => (.error .outOfRange, st)
  | a, b =>
    match a.cell? st, b.cell? st with
    | some (.list xs _), some (.list ys _) => Run.allocate (.list (xs ++ ys) .none) st
    | some (.tuple xs), some (.tuple ys) => Run.allocate (.tuple (xs ++ ys)) st
    | _, _ => match a.asInt?, b.asInt? with
      | some m, some n => done (.ofInt (m + n))
      | _, _ => match a.asFloat?, b.asFloat? with
        | some x, some y => done (.float (x.add y) .none 0)
        | _, _ => (.error .wrongType, st)

end RenderSource.Value
