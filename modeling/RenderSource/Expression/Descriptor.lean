import RenderSource.Value.Basic
/-!
Descriptions of expressions that a template producer hands over. Where one is expected anything else
may stand, so that the forms that are none are part of the type.
-/
namespace RenderSource

inductive Descriptor
  | const (v : Value)
  /-- A path into the data: texts, integers and nested descriptors; the empty path is all data. -/
  | accessor (path : List Descriptor)
  | filter (name : Text) (value : Descriptor) (args : List Descriptor)
  /-- An attribute of markup; a flag is written without its value. -/
  | markup (name : Text) (value : Descriptor) (flag : Bool)
  | call (renderer : Text) (args : List Descriptor)
  | output (expr : Descriptor) (escape : Bool)
  /-- An object of another class, or of the bare class of descriptors. -/
  | other (kind : Text)
  /-- Any other value in the place of a descriptor, such as a step of a path. -/
  | plain (v : Value)

instance : Inhabited Descriptor := ⟨.other []⟩

end RenderSource
