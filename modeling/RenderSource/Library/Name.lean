/-!
The functions of the library by name: those that templates call, and those that only the library's own
functions call.
-/
namespace RenderSource

inductive LibraryFunction
  | isUndefined
  | each
  | contains
  | extend
  | lookup
  | escapeHtml
  | toText
  | filterUrl
  | filterClass
  | filterStyle
  | filterSep
  | markupAttribute
  | markupFlag
  | quote
  | literal
  | momentLiteral
  | dateLiteral
  deriving DecidableEq, Repr

namespace LibraryFunction

def all : List LibraryFunction :=
  [ isUndefined, each, contains, extend, lookup, escapeHtml, toText, filterUrl, filterClass,
    filterStyle, filterSep, markupAttribute, markupFlag, quote, literal, momentLiteral, dateLiteral ]

def name : LibraryFunction → String
  | isUndefined => "is_undefined"
  | each => "each"
  | contains => "contains"
  | extend => "extend"
  | lookup => "lookup"
  | escapeHtml => "escape_html"
  | toText => "to_text"
  | filterUrl => "filter_url"
  | filterClass => "filter_class"
  | filterStyle => "filter_style"
  | filterSep => "filter_sep"
  | markupAttribute => "attr_filter"
  | markupFlag => "bool_attr_filter"
  | quote => "quote_string_literal"
  | literal => "stringify"
  | momentLiteral => "stringify_datetime"
  | dateLiteral => "stringify_date"

def filters : List (String × LibraryFunction) :=
  [("url", filterUrl), ("class", filterClass), ("style", filterStyle), ("sep", filterSep)]

end LibraryFunction

/-- A function of the library, also of those that are not for templates. -/
inductive Routine
  | library (f : LibraryFunction)
  /-- The literal of a value inside containers that are open. -/
  | literalInside
  | listLiteral
  | mappingLiteral
  /-- What is written for one code point that a literal cannot hold. -/
  | escapeMatch
  deriving DecidableEq, Repr

namespace Routine

def name : Routine → String
  | library f => f.name
  | literalInside => "_stringify"
  | listLiteral => "_stringify_array"
  | mappingLiteral => "_stringify_mapping"
  | escapeMatch => "_escape_literal_char"

end Routine

end RenderSource
