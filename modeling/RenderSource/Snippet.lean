import RenderSource.Fault
import RenderSource.Text.Lines
import RenderSource.Number.Decimal
/-!
Snippets: the lines of a source around a line of interest, with their numbers.
-/
namespace RenderSource.Snippet

/-- The lines at most `context` away from line `errorLine`, counted from 1. -/
def ofSource (source : Text) (errorLine context : Int) (column : Option Int) : Snippet :=
  let all := source.lines
  let first := max 0 (errorLine - 1 - context)
  let stop := min (all.length : Int) (errorLine + context)
  let numbers := (List.range (stop - first).toNat).map fun (i : Nat) => first + (i : Int)
  { lines := numbers.map fun i => (i + 1, all.getD i.toNat [])
    errorLine
    column }

def rightAligned (width : Nat) (t : Text) : Text := Text.blanks (width - t.length) ++ t

def lineText (s : Snippet) (line : Int × Text) : Text :=
  wording (if line.1 = s.errorLine then ">" else " ") ++ rightAligned 3 (Decimal.ofInt line.1) ++
    wording " | " ++ line.2

def text (s : Snippet) : Text :=
  Text.ofRows ([wording "   |"] ++ s.lines.map s.lineText ++
    (s.column.elim [] fun c => [wording "   | " ++ Text.blanks c.toNat ++ wording "^"]) ++
    [wording "   |"])

end RenderSource.Snippet
