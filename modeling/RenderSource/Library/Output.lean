import RenderSource.Value.Wording
/-!
Text of values in output. Missing values, that is nothing and absent ones, give no text.
-/
namespace RenderSource

def entity? (c : CodePoint) : Option String :=
  if c = .scalar '&' then some "&amp;"
  else if c = .scalar '<' then some "&lt;"
  else if c = .scalar '>' then some "&gt;"
  else if c = .scalar '"' then some "&quot;"
  else if c = .scalar '\'' then some "&#39;"
  else none

def escapeMarkup (c : CodePoint) : Text :=
  match entity? c with
  | some e => wording e
  | none => [c]

def Text.escapeMarkup (t : Text) : Text := t.flatMap RenderSource.escapeMarkup

namespace Value

def toText (st : Store) (v : Value) : Except Fault Text :=
  if v.isMissing then .ok [] else v.plainText st

def escapeHtml (st : Store) (v : Value) : Except Fault Text :=
  return (← v.toText st).escapeMarkup

end Value

end RenderSource
