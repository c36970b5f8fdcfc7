import RenderSource.Value.Equality
/-!
Entries of a mapping in their order. Writing an existing key keeps the first key and its place.
-/
namespace RenderSource.Entries

def find? (st : Store) (es : List (Value × Value)) (key : Value) : Except Fault (Option Value) := do
  return (← es.findM? fun (k, _) => k.agrees st key).map (·.2)

def put (st : Store) (key v : Value) : List (Value × Value) → Except Fault (List (Value × Value))
  | [] => .ok [(key, v)]
  | (k, w) :: es => do
    if ← k.agrees st key then return (k, v) :: es
    else return (k, w) :: (← put st key v es)

end RenderSource.Entries
