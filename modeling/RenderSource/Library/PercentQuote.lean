import RenderSource.Library.ByName
/-!
Percent-encoding as the library takes it from elsewhere, with any marks left as they are.
-/
namespace RenderSource.Library

open Env

def percentQuote (args : List Value) (named : List (Text × Value)) : Run Value := do
  let (source, safe) ← match args, named with
    | [s], [] => pure (s, Value.ofText (wording "/"))
    | [s], [(n, safe)] => if n = wording "safe" then pure (s, safe) else throw .wrongType
    | [s, safe], [] => pure (s, safe)
    | [s, safe, .none], [] => pure (s, safe)
    | [s, safe, .none, .none], [] => pure (s, safe)
    | _, _ => throw .wrongType
  let bytes ← match source with
    | .text t _ => match utf8Bytes? t with
      | some bs => pure bs
      | none => throw .unencodable
    | .bytes bs => pure (bs.map UInt8.toNat)
    | _ => throw .wrongType
  if bytes.isEmpty then return .ofText []
  let kept ← match safe with
    | .text t _ => pure (t.filterMap fun c => if c.val < 0x80 then some c.val else none)
    | .bytes bs => pure ((bs.map UInt8.toNat).filter fun b => b < 0x80)
    | v => do
      (← itemsOf v).filterMapM fun w => match w.asInt? with
        | none => throw .wrongType
        | some n =>
          if 0x80 ≤ n then pure none
          else if n < 0 then throw .badValue
          else pure (some n.toNat)
  return .ofText (percentEncodeBytes kept bytes)

end RenderSource.Library
