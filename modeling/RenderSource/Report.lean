import RenderSource.Literal.Write
import RenderSource.Snippet
import RenderSource.Library.Function
/-!
Reports: the wording and the code of each fault that is the library's own.
-/
namespace RenderSource

inductive ReportCode
  | invalidConfig
  | bufferState
  | unknownSegment
  | invalidExpression
  | unknownFilter
  | loadFailed
  deriving DecidableEq, Repr

namespace ReportCode

def text : ReportCode → String
  | invalidConfig => "KL-CFG-001"
  | bufferState => "KL-BUF-001"
  | unknownSegment => "KL-BUF-002"
  | invalidExpression => "KL-EXP-001"
  | unknownFilter => "KL-EXP-002"
  | loadFailed => "KL-LOD-001"

def category : ReportCode → String
  | invalidConfig => "config"
  | bufferState | unknownSegment => "buffer"
  | invalidExpression | unknownFilter => "expression"
  | loadFailed => "loader"

end ReportCode

structure Report where
  code : Option ReportCode
  message : Text
  deriving DecidableEq, Repr

namespace Report

/-- The message behind its code, unless it already names the code. -/
def compact (r : Report) : Text :=
  match r.code with
  | none => r.message
  | some c =>
    let t := wording c.text
    if Text.includes t r.message then r.message else t ++ wording ": " ++ r.message

/-- The message of a report that was made from any arguments: one speaks for itself, several are
shown together. -/
def argumentsMessage (st : Store) : List Value → Except Fault Text
  | [] => .ok []
  | [v] => v.plainText st
  | vs => let (v, st) := st.add (.tuple vs); v.shown st

def configMessage (field shown reason : Text) : Text :=
  wording "Invalid " ++ field ++ wording " " ++ shown ++ wording ": " ++ reason

def unknownFilterMessage (name : Text) (available : List Text) : Text :=
  wording "Unknown filter '" ++ name ++ wording "'" ++
    (if available.isEmpty then [] else
      wording ". Available filters: " ++
        Text.joinWith (wording ", ") (available.mergeSort Text.precedes))

def loadMessage (problem : Text) (filename : Text) (line : Option Int) (snippet : Option Snippet) :
    Text :=
  let file := if filename.isEmpty then wording "<renderer>" else filename
  let line := match line with
    | some n => if n = 0 then [] else wording ":" ++ Decimal.ofInt n
    | none => []
  Text.ofRows ([wording "Cannot load renderer: " ++ problem, wording "  --> " ++ file ++ line] ++
    snippet.toList.map Snippet.text)

end Report

def ConfigRule.reason : ConfigRule → String
  | .identifier => "must be a Python identifier"
  | .reserved => "is a Python keyword"
  | .libraryName => "shadows a prelude name"
  | .distinctNames => "must differ from data_name"
  | .indentWidth => "must be at least 1"
  | .version => "must be a string or None"

def CodePoint.named (c : CodePoint) : Text := wording "U+" ++
  (Decimal.hexPadded 4 c.val).map fun
    | .scalar d => .scalar d.toUpper
    | d => d

def LoadProblem.text : LoadProblem → Text
  | .unexpectedIndent => wording "unexpected indent"
  | .missingBlock => wording "expected an indented block"
  | .unevenDedent => wording "unindent does not match any outer indentation level"
  | .deepBlocks => wording "too many levels of indentation"
  | .invalidSyntax => wording "invalid syntax"
  | .missingComma => wording "invalid syntax. Perhaps you forgot a comma?"
  | .bracketedParameters => wording "Lambda expression parameters cannot be parenthesized"
  | .deepBrackets => wording "too many nested parentheses"
  | .noRoom => wording "out of memory"
  | .openString row =>
    wording "unterminated string literal (detected at line " ++ Decimal.ofNat row ++ wording ")"
  | .openTripleString row =>
    wording "unterminated triple-quoted string literal (detected at line " ++ Decimal.ofNat row ++
      wording ")"
  | .openBracket c => wording "'" ++ [c] ++ wording "' was never closed"
  | .unmatchedBracket c => wording "unmatched '" ++ [c] ++ wording "'"
  | .mismatchedBracket close opened =>
    wording "closing parenthesis '" ++ [close] ++ wording "' does not match opening parenthesis '" ++
      [opened] ++ wording "'"
  | .mismatchedBracketRow close opened row =>
    wording "closing parenthesis '" ++ [close] ++ wording "' does not match opening parenthesis '" ++
      [opened] ++ wording "' on line " ++ Decimal.ofNat row
  | .badNumber kind => wording "invalid " ++ wording kind ++ wording " literal"
  | .badCharacter c =>
    if Text.isPrintable c then
      wording "invalid character '" ++ [c] ++ wording "' (" ++ c.named ++ wording ")"
    else wording "invalid non-printable character " ++ c.named
  | .nullBytes => wording "source code string cannot contain null bytes"
  | .returnOutside => wording "'return' outside function"
  | .awaitOutside true => wording "'await' outside async function"
  | .awaitOutside false => wording "'await' outside function"
  | .yieldOutside => wording "'yield' outside function"
  | .fixedName => wording "cannot assign to __debug__"
  | .missingFunction name =>
    wording "source does not define a function named '" ++ name ++ wording "'"

def Fault.report? : Fault → Option Report
  | .config field shown rule => some
    ⟨some .invalidConfig, Report.configMessage (wording field) shown (wording rule.reason)⟩
  | .unmatchedDedent => some
    ⟨some .bufferState, wording "dedent() without a matching indent()"⟩
  | .unknownSegment kind => some
    ⟨some .unknownSegment, wording "Unknown segment type: " ++ kind⟩
  | .unknownDescriptor kind => some
    ⟨some .invalidExpression, wording "Cannot compile expression descriptor of type " ++ kind⟩
  | .badStep shown => some ⟨some .invalidExpression, wording "Invalid accessor step " ++ shown⟩
  | .badRenderer shown => some
    ⟨some .invalidExpression,
      wording "Renderer name " ++ shown ++ wording " is not an identifier"⟩
  | .unknownFilter name => some
    ⟨some .unknownFilter,
      Report.unknownFilterMessage name (LibraryFunction.filters.map fun (n, _) => wording n)⟩
  | .load f => some
    ⟨some .loadFailed, Report.loadMessage f.problem.text f.filename f.line f.snippet⟩
  | _ => none

end RenderSource
