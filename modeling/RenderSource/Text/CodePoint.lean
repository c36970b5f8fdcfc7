/-!
Text as renderers see it: a sequence of code points. An unpaired surrogate may stand in a text, so a
text is wider than a sequence of characters; a high and a low surrogate side by side stay two code
points.
-/
namespace RenderSource

inductive CodePoint
  | scalar (c : Char)
  | surrogate (u : Fin 2048)
  deriving DecidableEq, Inhabited, Repr

abbrev Text := List CodePoint

namespace CodePoint

def val : CodePoint → Nat
  | scalar c => c.toNat
  | surrogate u => 0xD800 + u.val

def ofNat? (n : Nat) : Option CodePoint :=
  if h : n.isValidChar then some (scalar (Char.ofNatAux n h))
  else if h : 0xD800 ≤ n ∧ n < 0xE000 then some (surrogate ⟨n - 0xD800, by omega⟩)
  else none

def isSurrogate : CodePoint → Bool
  | scalar _ => false
  | surrogate _ => true

end CodePoint

namespace Text

def ofString (s : String) : Text := s.toList.map .scalar

def blanks (n : Nat) : Text := List.replicate n (.scalar ' ')

def characters? (t : Text) : Option (List Char) :=
  t.mapM fun
    | .scalar c => some c
    | .surrogate _ => none

def precedes : Text → Text → Bool
  | [], _ => true
  | _ :: _, [] => false
  | a :: s, b :: t => if a.val = b.val then precedes s t else decide (a.val < b.val)

def dropFront? : Text → Text → Option Text
  | [], t => some t
  | _ :: _, [] => none
  | a :: p, b :: t => if a = b then dropFront? p t else none

def beginsWith (p t : Text) : Bool := (dropFront? p t).isSome

def includes (p : Text) : Text → Bool
  | [] => p.isEmpty
  | c :: t => beginsWith p (c :: t) || includes p t

def replaceFirst (p r : Text) : Text → Text
  | [] => if p.isEmpty then r else []
  | c :: t =>
    match dropFront? p (c :: t) with
    | some rest => r ++ rest
    | none => c :: replaceFirst p r t

def joinWith (sep : Text) : List Text → Text
  | [] => []
  | [t] => t
  | t :: ts => t ++ sep ++ joinWith sep ts

end Text

abbrev wording (s : String) : Text := Text.ofString s

end RenderSource
