import RenderSource.Code.Token

/-!
Laying out a statement at a depth. Rows that begin inside a string are kept as they are, since blanks
in front would change the string; rows of white space become empty.
-/
namespace RenderSource.Layout

def row (indent : Text) (inside : List Nat) (n : Nat) (r : Text) : Text :=
  if n ∈ inside then r else if r.isBlank then [] else indent ++ r

def rowsFrom (indent : Text) (inside : List Nat) : Nat → List Text → List Text
  | _, [] => []
  | n, r :: rs => row indent inside n r :: rowsFrom indent inside (n + 1) rs

def rows (indent t : Text) : List Text :=
  match t.rows with
  | [r] => [row indent [] 1 r]
  | rs => rowsFrom indent (insideRows t) 1 rs

end RenderSource.Layout
