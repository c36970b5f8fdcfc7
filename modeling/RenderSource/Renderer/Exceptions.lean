import RenderSource.Renderer.Builtin.Functions
/-!
Exceptions of the classes that the library makes. What they say is worked out by names, like all that
the library does, in the frame that the class was made in.
-/
namespace RenderSource.Exceptions

def shownLimit : Nat := 80

def shownKept : Nat := 77

def shownFor (e : Env) (v kind : Value) : Run Value := do
  let attempt : Run Value := do e.callNamed "repr" [v]
  let byKind : Run Value := do
    return .ofText (wording "<" ++ (← Env.textOf kind) ++ wording ">")
  let shown ← fun st => attempt.recover (fun f => if f.isBadValue st then some byKind else none) st
  let length ← e.callNamed "len" [shown]
  if ← Run.look fun st => Value.less st (.ofInt shownLimit) length then
    match shown with
    | .text t _ => return .ofText (t.take shownKept ++ wording "...")
    | _ => throw .wrongType
  return shown

def kindOf (e : Env) (v : Value) : Run Value := do
  Builtin.partOf (← e.callNamed "type" [v]) (.ofText (wording "__name__")) none

/-- Whether the name for what a class derives from still means that. -/
def reachesBase (e : Env) : Run Bool := do
  let v ← e.named "super"
  if v = Value.builtinClass "super" then return true
  let _ ← e.call v [] []
  return false

def aboutUnsupported (e : Env) (v reason : Value) (args : List Value) :
    Run (List Value × List (Text × Value)) := do
  let kind ← kindOf e v
  let attributes := [(wording "value", v), (wording "kind", kind)]
  let shown ← shownFor e v kind
  let message := wording "Cannot stringify " ++ (← Env.textOf kind) ++ wording ": " ++
    (← Env.textOf shown)
  let message ← if ← Env.truth reason then do
      pure (message ++ wording " (" ++ (← Env.textOf reason) ++ wording ")")
    else pure message
  return (if ← reachesBase e then [.ofText message] else args, attributes)

/-- What an exception of a class that the library makes is given at its making. -/
def about (e : Env) (cls : Text) (args : List Value) : Run (List Value × List (Text × Value)) := do
  if cls = wording "UnsupportedValueKind" then
    match args with
    | [v] => aboutUnsupported e v (.ofText []) args
    | [v, reason] => aboutUnsupported e v reason args
    | _ => throw .wrongType
  else if cls = wording "NonFiniteNumber" then
    match args with
    | [v] =>
      if ← reachesBase e then aboutUnsupported e v (.ofText (wording "non-finite number")) args
      else return (args, [])
    | _ => throw .wrongType
  else if cls = wording "CyclicStructure" then
    match args with
    | [v] =>
      let kind ← kindOf e v
      let attributes := [(wording "value", v), (wording "kind", kind)]
      let message := wording "Cannot stringify cyclic " ++ (← Env.textOf kind)
      return (if ← reachesBase e then [.ofText message] else args, attributes)
    | _ => throw .wrongType
  else return (args, [])

end RenderSource.Exceptions
