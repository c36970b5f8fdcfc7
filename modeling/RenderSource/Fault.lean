import RenderSource.Value.Basic
/-!
Why an operation fails. The first group are this library's own reports, the second the failures that
running generated source, or an operation on an unfit value, ends in.
-/
namespace RenderSource

/-- Why a value has no literal. -/
inductive Offence
  | unsupported (v : Value)
  | tooLong (v : Value)
  | badKey (key : Value)
  | nonFinite (v : Value)
  | cyclic (v : Value)
  /-- Writing it takes more calls inside one another than there can be. -/
  | deep (v : Value)
  deriving DecidableEq, Repr

inductive ConfigRule
  | identifier
  | reserved
  | libraryName
  | distinctNames
  | indentWidth
  | version
  deriving DecidableEq, Repr

structure Snippet where
  lines : List (Int × Text)
  errorLine : Int
  column : Option Int
  deriving DecidableEq, Repr

inductive LoadProblem
  | unexpectedIndent
  | missingBlock
  | unevenDedent
  /-- More blocks inside one another than can be open. -/
  | deepBlocks
  | invalidSyntax
  /-- A yield in brackets that is the only argument of a call, inside other brackets. -/
  | missingComma
  | bracketedParameters
  | deepBrackets
  /-- More brackets inside one another than there is room for where the row is read. -/
  | noRoom
  /-- A string that is open at the end of the row with this number. -/
  | openString (row : Nat)
  | openTripleString (row : Nat)
  /-- A bracket that no later one closes. -/
  | openBracket (c : CodePoint)
  | unmatchedBracket (c : CodePoint)
  | mismatchedBracket (close opened : CodePoint)
  /-- The bracket that is open was opened in an earlier row. -/
  | mismatchedBracketRow (close opened : CodePoint) (row : Nat)
  | badNumber (kind : String)
  | badCharacter (c : CodePoint)
  | nullBytes
  | returnOutside
  | awaitOutside (insideFunction : Bool)
  | yieldOutside
  | fixedName
  | missingFunction (name : Text)
  deriving DecidableEq, Repr

structure LoadFailure where
  problem : LoadProblem
  filename : Text
  line : Option Int
  snippet : Option Snippet
  deriving DecidableEq, Repr

inductive Fault
  | offence (o : Offence)
  /-- A field of a configuration, the shown form of its value, and the rule it breaks. -/
  | config (field : String) (shown : Text) (rule : ConfigRule)
  | unmatchedDedent
  | unknownSegment (kind : Text)
  | unknownDescriptor (kind : Text)
  | badStep (shown : Text)
  | badRenderer (shown : Text)
  | unknownFilter (name : Text)
  | load (f : LoadFailure)
  /-- A report of a caller's own expression writer. -/
  | caller (message : Text)
  | wrongType
  | badValue
  | noAttribute
  | unknownName
  | unsetName
  | outOfRange
  | unencodable
  | badIndex
  | tooDeep
  | outOfMemory
  | missingKey
  | divisionByZero
  | exhausted
  | badTemplate
  /-- An exception that generated source raises. -/
  | raised (exception : Value)
  deriving DecidableEq, Repr

end RenderSource
