import RenderSource.Library.Output
import RenderSource.Text.Percent
/-!
The filters that templates name, and the two forms of an attribute.
-/
namespace RenderSource

namespace Value

def filterUrl (st : Store) (v : Value) : Except Fault Value := do
  let t ← v.toText st
  match percentEncode? t with
  | some u => return .ofText u
  | .none => throw .unencodable

/-- A list of classes joined by single spaces, with nothing for None; other values pass. -/
def filterClass (st : Store) (v : Value) : Except Fault Value :=
  match v.items? st with
  | .none => .ok v
  | some vs => do
    let parts ← vs.mapM fun item => if item = .none then pure [] else item.plainText st
    return .ofText (Text.joinWith (wording " ") parts)

/-- A mapping as declarations; false values of other kinds give no text. -/
def filterStyle (st : Store) (v : Value) : Except Fault Value :=
  match v.entries? st with
  | some es => do
    let parts ← es.mapM fun (k, item) => do
      return (← k.plainText st) ++ wording ":" ++ (← item.plainText st) ++ wording ";"
    return .ofText parts.flatten
  | .none => .ok (if v.isTrue st then v else .ofText [])

def filterSep (st : Store) (v sep : Value) : Except Fault Value := do
  if v.isTrue st then return .ofText ((← sep.plainText st) ++ (← v.plainText st))
  else return .ofText []

def markupAttribute (name : Value) (st : Store) (v : Value) : Except Fault Value := do
  if v.isTrue st then
    return .ofText (wording " " ++ (← name.plainText st) ++ wording "=\"" ++ (← v.plainText st) ++
      wording "\"")
  else return .ofText []

/-- An attribute without a value; the texts that mean no suppress it as well. -/
def markupFlag (name : Value) (st : Store) (v : Value) : Except Fault Value := do
  if v.isTrue st && v.asText? != some (wording "false") && v.asText? != some (wording "0") then
    return .ofText (wording " " ++ (← name.plainText st))
  else return .ofText []

end Value

end RenderSource
