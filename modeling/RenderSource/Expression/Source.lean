import RenderSource.Expression.Descriptor
import RenderSource.Library.Function
import RenderSource.Text.Identifier
/-!
Source of descriptors. A node is checked before its parts and the parts are written from left to
right, so the first fault in that order is reported.
-/
namespace RenderSource

namespace Descriptor

def calling (f : Text) (args : List Text) : Text :=
  f ++ wording "(" ++ Text.joinWith (wording ", ") args ++ wording ")"

mutual

def source (st : Store) (dataName : Text) : Descriptor → Except Fault Text
  | const v => LibraryFunction.literalOf st v
  | accessor [] => .ok dataName
  | accessor (step :: path) => do
    return calling (wording "lookup") (dataName :: (← stepSources st dataName (step :: path)))
  | filter name value args => do
    if (LibraryFunction.filter? name).isNone then throw (.unknownFilter name)
    let first ← source st dataName value
    let more ← sources st dataName args
    return calling (wording "DEFAULT_FILTERS[" ++ name.quote ++ wording "]") (first :: more)
  | markup name value flag => do
    let inner ← source st dataName value
    return calling (wording (if flag then "bool_attr_filter" else "attr_filter")) [name.quote, inner]
  | call renderer args => do
    if !renderer.isIdentifier then throw (.badRenderer renderer.shown)
    return calling renderer (← sources st dataName args)
  | output expr escape => do
    let inner ← source st dataName expr
    return calling (wording (if escape then "escape_html" else "to_text")) [inner]
  | other kind => .error (.unknownDescriptor kind)
  | plain v => .error (.unknownDescriptor (v.kind st))

def sources (st : Store) (dataName : Text) : List Descriptor → Except Fault (List Text)
  | [] => .ok []
  | d :: ds => do
    let first ← source st dataName d
    return first :: (← sources st dataName ds)

def stepSources (st : Store) (dataName : Text) : List Descriptor → Except Fault (List Text)
  | [] => .ok []
  | d :: ds => do
    let first ← stepSource st dataName d
    return first :: (← stepSources st dataName ds)

/-- A step is a key, an index or a nested descriptor; a truth value is none of these. -/
def stepSource (st : Store) (dataName : Text) : Descriptor → Except Fault Text
  | plain (.bool b) => do throw (.badStep (← (Value.bool b).shown st))
  | plain (.text t _) => .ok t.quote
  | plain (.int n cls) => (Value.int n cls).shown st
  | plain v => .error (.unknownDescriptor (v.kind st))
  | d => source st dataName d

end

def textSource (st : Store) (dataName : Text) (d : Descriptor) : Except Fault Text := do
  let inner ← d.source st dataName
  match d with
  | output _ _ => return inner
  | _ => return calling (wording "to_text") [inner]

end Descriptor

/-- What the source buffer needs of a writer of expressions: source that gives text, and a reference
to the data. -/
structure ExpressionWriter where
  expression : Store → Descriptor → Except Fault Text
  dataAccess : Except Fault Text

def ExpressionWriter.ofName (dataName : Text) : ExpressionWriter :=
  ⟨fun st d => d.textSource st dataName, .ok dataName⟩

end RenderSource
