import RenderSource.Library.Parts
import RenderSource.Fault
import RenderSource.Text.Quoted
import RenderSource.Text.Lines
/-!
The library as one block of source, and stamping a version into it.
-/
namespace RenderSource.Library

def partText (p : LibraryPart) : Text := Text.ofRows (p.rows.map wording)

/-- The library with the placeholder in the place of its version; an empty row parts its parts. -/
def unstamped : Text := Text.joinWith (wording "\n\n") (libraryParts.map partText)

def names : List String := libraryParts.flatMap LibraryPart.names

def sortedNames : List Text := (names.map wording).mergeSort Text.precedes

def binds (t : Text) : Bool := names.any fun n => wording n = t

def placeholder : Text := wording "##version##"

/-- Without a version the placeholder stays. -/
def stamped : Option Text → Text
  | none => unstamped
  | some v => Text.replaceFirst placeholder.quote v.quote unstamped

/-- The library with a version of any kind of value, which must be a text or nothing. -/
def stampedWith (v : Value) : Except Fault Text :=
  match v with
  | .none => .ok (stamped none)
  | v => match v.asText? with
    | some t => .ok (stamped (some t))
    | none => .error .wrongType

end RenderSource.Library
