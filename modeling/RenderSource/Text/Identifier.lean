import RenderSource.Text.CodePoint
import RenderSource.Text.Ranges
import RenderSource.Text.IdentifierRanges
import RenderSource.Text.WordRanges
/-!
Names of the generated language: which texts are identifiers, and which of them are reserved words.
-/
namespace RenderSource

namespace CodePoint

def startsName (c : CodePoint) : Bool := Ranges.has identifierStartRanges c.val

def continuesName (c : CodePoint) : Bool :=
  c.startsName || Ranges.has identifierOnlyContinueRanges c.val

def isWord (c : CodePoint) : Bool := Ranges.has wordRanges c.val

def isDigit (c : CodePoint) : Bool := decide (0x30 ≤ c.val ∧ c.val ≤ 0x39)

end CodePoint

def Text.isIdentifier : Text → Bool
  | [] => false
  | c :: t => c.startsName && t.all CodePoint.continuesName

def reservedWords : List String := [
  "False", "None", "True", "and", "as", "assert", "async", "await", "break", "class", "continue",
  "def", "del", "elif", "else", "except", "finally", "for", "from", "global", "if", "import", "in",
  "is", "lambda", "nonlocal", "not", "or", "pass", "raise", "return", "try", "while", "with",
  "yield" ]

def Text.isReserved (t : Text) : Bool := reservedWords.any fun w => wording w = t

end RenderSource
