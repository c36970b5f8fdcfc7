import RenderSource.Renderer.Machine
import RenderSource.Buffer.Basic
import RenderSource.Snippet
/-!
Loading a source into a renderer. The source is read as a whole, then its outermost statements run,
and the function of the wanted name is picked out. The wanted name is taken as it is given: a name
that is not in normal form finds nothing.
-/
namespace RenderSource

structure Renderer where
  program : Program
  entry : Value

namespace Renderer

def contextLines : Int := 2

def failure (source filename : Text) (f : SourceFault) : LoadFailure :=
  { problem := f.problem
    filename
    line := some f.row
    snippet := some (.ofSource source f.row contextLines (some f.column)) }

/-- How reading a source with a fault in it fails. Where there is no room for a row, memory is used up. -/
def sourceFault (source filename : Text) (f : SourceFault) : Fault :=
  if f.problem = .noRoom then .outOfMemory else .load (failure source filename f)

def isNull (c : CodePoint) : Bool := c.val = 0

/-- The statements of a source; each must read and stand where it may. A name of a file without
meaning is refused first, then code points that no source can hold. -/
def statements (source filename : Text) : Except Fault (List Placed) := do
  if filename.any isNull then throw .badValue
  if source.any CodePoint.isSurrogate then throw .unencodable
  if source.any isNull then throw (.load ⟨.nullBytes, filename, none, none⟩)
  match Placed.read source with
  | .error f => throw (sourceFault source filename f)
  | .ok ps => match Placed.misplaced? ps with
    | some f => throw (.load (failure source filename f))
    | none => return ps

def moduleName (functionName : Text) : Text := wording "kiln.renderer." ++ functionName

/-- What can be called by a name outside of functions; the name is taken as it is given. -/
def found? (st : Store) (globals : Nat) (name : Text) : Option Value :=
  ((st.frames[globals]?).bind fun f => f.bound.lookup name).filter fun v => v.isCallable st

def load (source functionName filename : Text) : Run Renderer := do
  let rows ← Run.ofExcept (statements source filename)
  let globals ← Run.change fun st =>
    let (i, st) := st.addFrame (Store.outermost (moduleName functionName))
    (.ok i, st)
  let program := Program.ofRows rows globals
  program.start
  match ← Run.look fun st => .ok (found? st globals functionName) with
  | some entry => return { program, entry }
  | none => throw (.load ⟨.missingFunction functionName, filename, none, none⟩)

def render (r : Renderer) (data : Value) : Run Value :=
  r.program.call Program.callLimit r.entry [data] []

def standardFilename : Text := wording "<renderer>"

def ofBuffer (b : Buffer) (filename : Text) : Run Renderer := do
  let source ← Run.look fun st => b.source st
  load source b.config.functionName filename

end Renderer

end RenderSource
