import RenderSource.Code.Layout
import RenderSource.Config
import RenderSource.Buffer.Segment
import RenderSource.Expression.Source
/-!
The source buffer: segments are appended in document order, and at the end all of them become source,
one statement for each segment but for runs of literals at one depth, which become one statement.
-/
namespace RenderSource

structure Buffer where
  config : Config
  writer : ExpressionWriter
  segments : List Segment := []
  depth : Nat := 0

namespace Buffer

def ofConfig (c : Config) : Buffer := { config := c, writer := .ofName c.dataName }

def append (b : Buffer) (s : Segment) : Buffer := { b with segments := b.segments ++ [s] }

def appendRaw (b : Buffer) (t : Text) : Buffer := b.append (.raw b.depth t)

def appendJoinRaw (b : Buffer) (t : Text) : Buffer := b.append (.joinRaw b.depth t)

def appendLiteral (b : Buffer) (t : Text) : Buffer := b.append (.literal b.depth t)

def appendData (b : Buffer) : Buffer := b.append (.data b.depth)

def appendExpression (b : Buffer) (d : Descriptor) : Buffer := b.append (.expression b.depth d)

def indent (b : Buffer) : Buffer := { b with depth := b.depth + 1 }

def dedent (b : Buffer) : Except Fault Buffer :=
  if b.depth = 0 then .error .unmatchedDedent else .ok { b with depth := b.depth - 1 }

def appendStart (b : Buffer) : Buffer :=
  let c := b.config
  let b := b.appendRaw
    (wording "def " ++ c.functionName ++ wording "(" ++ c.dataName ++ wording "):")
  let b := b.indent
  let b := b.appendRaw (Library.stamped c.version)
  b.appendRaw (c.accumulator ++ wording " = \"\"")

/-- Returns the output and closes the render function. The statement is appended in any case. -/
def appendEnd (b : Buffer) : Buffer × Except Fault Unit :=
  let b := b.appendRaw (wording "return " ++ b.config.accumulator)
  match b.dedent with
  | .ok b => (b, .ok ())
  | .error e => (b, .error e)

def joinStatement (c : Config) (code : Text) : Text := c.accumulator ++ wording " += " ++ code

def shown (b : Buffer) : Text :=
  wording "<SourceBuffer " ++ b.config.functionName.shown ++ wording " segments=" ++
    Decimal.ofNat b.segments.length ++ wording ">"

/-- What stands for raw source must be a text; of other containers only one without a newline as an
item is asked for its rows. -/
def rawText (st : Store) (v : Value) : Except Fault Text :=
  match v with
  | .text t _ => .ok t
  | .ref _ => do
    let items ← v.iterate st
    if ← items.anyM fun i => i.equal st (.ofText [newline]) then throw .wrongType
    else throw .noAttribute
  | _ => .error .wrongType

/-- A foreign segment is written only if its class bears the name of a segment class other than that
of literals; then its attributes are used. -/
def foreignStatement (b : Buffer) (st : Store) (v : Value) :
    Except Fault (Value × Except Fault Text) :=
  let kind := v.kind st
  if kind = wording "RawCode" then do
    let depth ← v.memberOf st (wording "depth")
    let text ← v.memberOf st (wording "text")
    return (depth, rawText st text)
  else if kind = wording "JoinRawCode" then do
    let depth ← v.memberOf st (wording "depth")
    let code ← (← v.memberOf st (wording "text")).plainText st
    return (depth, .ok (joinStatement b.config (wording "to_text(" ++ code ++ wording ")")))
  else if kind = wording "JoinDataSerialization" then do
    let depth ← v.memberOf st (wording "depth")
    let data ← b.writer.dataAccess
    return (depth, .ok (joinStatement b.config (wording "stringify(" ++ data ++ wording ")")))
  else if kind = wording "JoinExpression" then do
    let depth ← v.memberOf st (wording "depth")
    let code ← b.writer.expression st (.plain (← v.memberOf st (wording "expr")))
    return (depth, .ok (joinStatement b.config code))
  else .error (.unknownSegment kind)

def statement (b : Buffer) (st : Store) : Segment → Except Fault (Value × Except Fault Text)
  | .raw n t => .ok (.ofInt n, .ok t)
  | .joinRaw n code => .ok (.ofInt n,
      .ok (joinStatement b.config (wording "to_text(" ++ code ++ wording ")")))
  | .literal n t => .ok (.ofInt n, .ok (joinStatement b.config t.quote))
  | .data n => do
    let data ← b.writer.dataAccess
    return (.ofInt n, .ok (joinStatement b.config (wording "stringify(" ++ data ++ wording ")")))
  | .expression n d => do
    return (.ofInt n, .ok (joinStatement b.config (← b.writer.expression st d)))
  | .foreign v => b.foreignStatement st v

/-- The rows of a segment. The blanks in front are made before the text is looked at. -/
def segmentRows (b : Buffer) (st : Store) (s : Segment) : Except Fault (List Text) := do
  let (depth, text) ← b.statement st s
  let indent ← repeated (← b.config.indentUnit) depth
  return Layout.rows indent (← text)

def flush (b : Buffer) (st : Store) : Option (Nat × Text) → Except Fault (List Text)
  | none => .ok []
  | some (_, []) => .ok []
  | some (depth, t) => b.segmentRows st (.literal depth t)

/-- The rows of segments behind the literals `pending`, which are at one depth. -/
def rowsAfter (b : Buffer) (st : Store) (pending : Option (Nat × Text)) :
    List Segment → Except Fault (List Text)
  | [] => b.flush st pending
  | .literal n t :: rest =>
    match pending with
    | some (m, u) =>
      if m = n then rowsAfter b st (some (n, u ++ t)) rest
      else do
        let before ← b.flush st pending
        return before ++ (← rowsAfter b st (some (n, t)) rest)
    | none => rowsAfter b st (some (n, t)) rest
  | s :: rest => do
    let before ← b.flush st pending
    let here ← b.segmentRows st s
    return before ++ here ++ (← rowsAfter b st none rest)

def rows (b : Buffer) (st : Store) : Except Fault (List Text) := b.rowsAfter st none b.segments

def source (b : Buffer) (st : Store) : Except Fault Text := return Text.ofRows (← b.rows st)

end Buffer

end RenderSource
