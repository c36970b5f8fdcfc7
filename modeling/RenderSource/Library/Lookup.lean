import RenderSource.Value.Entries
import RenderSource.Value.Members
/-!
Walking a path through mappings, sequences and attributes. A step that finds nothing ends the walk
with None. A step fails on a mapping whose keys cannot be like the given one, and where asking for an
attribute fails.
-/
namespace RenderSource

/-- A text as the key of an attribute; names that begin with a low line are private. -/
def Text.isPrivate (t : Text) : Bool := Text.beginsWith (wording "_") t

namespace Value

def itemAt (vs : List Value) (i : Int) : Value :=
  let place := if i < 0 then i + vs.length else i
  if 0 ≤ place then vs.getD place.toNat .none else .none

section

/-! Attributes are asked for by `ask`, whatever that finds. -/

variable (st : Store) (ask : Value → Text → Except Fault (Option Value))

def stepBy (v key : Value) : Except Fault Value :=
  match v.entries? st with
  | some es => do
    if !key.isHashable st then throw .wrongType
    return (← Entries.find? st es key).getD .none
  | .none =>
    match v.items? st, key.asInt?, key.asText? with
    | some vs, some i, _ => .ok (itemAt vs i)
    | _, _, some name =>
      if name.isPrivate then .ok .none else (ask v name).map fun found => found.getD .none
    | _, _, _ => .ok .none

def lookupBy (v : Value) : List Value → Except Fault Value
  | [] => .ok (if v.isAbsent then .none else v)
  | key :: path => do
    if v.isMissing then return .none
    else lookupBy (← stepBy st ask v key) path

end

def step (st : Store) (v key : Value) : Except Fault Value := stepBy st (member? st) v key

def lookup (st : Store) (v : Value) (path : List Value) : Except Fault Value :=
  lookupBy st (member? st) v path

theorem lookup_start (st : Store) (v : Value) : v.lookup st [] = .ok (if v.isAbsent then .none else v) := rfl

theorem lookup_next (st : Store) (v key : Value) (path : List Value) :
    v.lookup st (key :: path) =
      if v.isMissing then .ok .none else v.step st key >>= fun w => w.lookup st path := by
  cases missing : v.isMissing <;> simp only [lookup, lookupBy, missing] <;> rfl

end Value

end RenderSource
