import RenderSource.Expression.Descriptor
/-!
Segments: the pieces of a render function in the order in which they were appended, each at the depth
of blocks it was appended at.
-/
namespace RenderSource

inductive Segment
  /-- Source emitted as it is. -/
  | raw (depth : Nat) (text : Text)
  /-- An expression in source form whose text is joined into the output. -/
  | joinRaw (depth : Nat) (code : Text)
  /-- Output text, already escaped. -/
  | literal (depth : Nat) (text : Text)
  /-- All data as a literal. -/
  | data (depth : Nat)
  | expression (depth : Nat) (descriptor : Descriptor)
  /-- An object of no segment class. -/
  | foreign (v : Value)

instance : Inhabited Segment := ⟨.data 0⟩

namespace Segment

def depth? : Segment → Option Nat
  | raw n _ | joinRaw n _ | literal n _ | data n | expression n _ => some n
  | foreign _ => none

end Segment

end RenderSource
