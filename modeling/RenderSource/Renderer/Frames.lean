import RenderSource.Renderer.Builtin.Names
import RenderSource.Text.NormalForm
/-!
Names while source runs. A function's own names are known before it runs, whether or not they are
bound yet; other names are those of the functions around it, then those outside of all functions, and
at last those in scope everywhere. Names are compared in normal form.
-/
namespace RenderSource

namespace Store

def outermost (moduleName : Text) : Frame :=
  { own := [], bound := [(wording "__name__", .ofText moduleName)], outer := none, place := [] }

def addFrame (st : Store) (f : Frame) : Nat × Store :=
  (st.frames.size, { st with frames := st.frames.push f })

/-- Binds names in a frame; the first one counts where names are equal. -/
def bindAll (st : Store) (i : Nat) (named : List (Text × Value)) : Store :=
  match st.frames[i]? with
  | some f => { st with frames := st.frames.setIfInBounds i { f with bound := named ++ f.bound } }
  | none => st

def bind (st : Store) (i : Nat) (n : Text) (v : Value) : Store :=
  match st.frames[i]? with
  | some f =>
    let others := f.bound.filter fun (m, _) => m != n
    { st with frames := st.frames.setIfInBounds i { f with bound := (n, v) :: others } }
  | none => st

def readOutside (st : Store) (globals : Nat) (n : Text) : Except Fault Value :=
  match ((st.frames[globals]?.bind fun f => f.bound.lookup n).or (Builtin.find? n)) with
  | some v => .ok v
  | none => .error .unknownName

/-- A name that is not a function's own, from the frame around it on. A name of a function around that
is not bound yet is unknown. The fuel is the number of frames. -/
def readAround (st : Store) (globals : Nat) (n : Text) : Nat → Option Nat → Except Fault Value
  | 0, _ => st.readOutside globals n
  | _, none => st.readOutside globals n
  | fuel + 1, some i =>
    match st.frames[i]? with
    | none => st.readOutside globals n
    | some f =>
      if n ∈ f.own then match f.bound.lookup n with
        | some v => .ok v
        | none => .error .unknownName
      else readAround st globals n fuel f.outer

/-- A name in a function that runs. Its own names may not be set yet. -/
def readIn (st : Store) (globals i : Nat) (n : Text) : Except Fault Value :=
  match st.frames[i]? with
  | none => .error .unknownName
  | some f => match f.bound.lookup n with
    | some v => .ok v
    | none =>
      if n ∈ f.own then .error .unsetName
      else st.readAround globals n st.frames.size f.outer

end Store

end RenderSource
