import RenderSource.Renderer.Frames
import RenderSource.Library.ByName
/-!
What the library leaves behind when it runs inside a function: its names, bound in order. Its
functions then read the names that they use in the frame of that function. Where no name of the source
can get in their way the functions are bound as what they are meant to do.
-/
namespace RenderSource.Installation

/-- Binds names for a source that hides none of those that the library uses and uses none of those
that are for the library alone. -/
def bindPlainly (i : Nat) (version : Text) : Run Unit :=
  let functions := LibraryFunction.all.map fun f =>
    (wording f.name, Value.entity (.function (.library f) none))
  Run.update fun st => st.bindAll i (functions ++
    [ (wording "DEFAULT_FILTERS", .entity .filters),
      (wording "RENDERER_VERSION", .ofText version),
      (wording "datetime", .entity (.module (wording "datetime"))) ])

def set (i : Nat) (n : String) (v : Value) : Run Unit := Run.update fun st => st.bind i (wording n) v

def setFunction (i : Nat) (r : Routine) : Run Unit :=
  set i r.name (.entity (.function r (some i)))

def setFunctions (i : Nat) (fs : List LibraryFunction) : Run Unit :=
  fs.forM fun f => setFunction i (.library f)

/-- A class that derives from `bases`, which must be classes of exceptions. The name of the module
stands in front of its own. -/
def makeClass (globals i : Nat) (n : String) (bases : List Value) : Run Value := do
  if !(← Run.look fun st => .ok (bases.all fun b => b.isExceptionClass st)) then throw .wrongType
  let place ← Run.look fun st =>
    match st.readOutside globals (wording "__name__"), st.frames[i]? with
    | .ok (.text m _), some f => .ok (m ++ wording "." ++ f.place)
    | _, _ => .ok []
  Run.allocate (.madeClass (wording n) place i bases)

def textEntries (es : List (Text × Text)) : List (Value × Value) :=
  es.map fun (k, v) => (.ofText k, .ofText v)

def markupEntities : List (Text × Text) :=
  ['&', '<', '>', '"', '\''].filterMap fun c =>
    (entity? (.scalar c)).map fun e => ([.scalar c], wording e)

def markupTable (e : Env) : Run Value := do
  let byText ← Run.allocate (.dict (textEntries markupEntities) none)
  let byNumber : Run Value := Run.allocate (.dict (markupEntities.map fun (k, v) =>
    (.ofInt (((k.map CodePoint.val).headD 0 : Nat) : Int), .ofText v)) none)
  match ← e.named "str" with
  | .text _ _ => byNumber
  | .bytes _ => throw .wrongType
  | .builtin n true =>
    if n = wording "str" then byNumber
    else if n = wording "bytes" || n = wording "bytearray" then throw .wrongType
    else throw .noAttribute
  | v => e.callMember v "maketrans" [byText]

def literalEntries : List (Text × Text) :=
  [ (wording "\\", wording "\\\\"), (wording "\"", wording "\\\""), (wording "\n", wording "\\n"),
    (wording "\t", wording "\\t"), (wording "\r", wording "\\r") ]

def epoch (z : Zone) : Value := .moment ⟨⟨1970, 1, 1⟩, 0, 0, 0, 0, z⟩

/-- The names up to those of the filters and of markup. -/
def opening (globals i : Nat) (e : Env) (version : Text) : Run Unit := do
  for m in ["datetime", "math", "re"] do
    set i m (.entity (.module (wording m)))
  set i "Mapping" Value.mappingClass
  set i "_quote_component" (.entity .percentQuote)
  set i "RENDERER_VERSION" (.ofText version)
  let absent ← makeClass globals i "_Undefined" []
  set i "_Undefined" absent
  set i "UNDEFINED" (match absent with
    | .ref a => .absent (.copied a)
    | v => v)
  setFunctions i [.isUndefined, .each, .contains, .extend, .lookup]
  set i "_HTML_ESCAPES" (← markupTable e)
  setFunctions i [.escapeHtml, .toText, .filterUrl, .filterClass, .filterStyle, .filterSep]
  let filters ← LibraryFunction.filters.mapM fun (n, f) => do
    return (.ofText (wording n), ← e.named f.name)
  set i "DEFAULT_FILTERS" (← Run.allocate (.dict filters none))
  setFunctions i [.markupAttribute, .markupFlag]

def errorClasses (globals i : Nat) (e : Env) : Run Unit := do
  let general ← makeClass globals i "StringifyError" [← e.named "Exception"]
  set i "StringifyError" general
  let unsupported ← makeClass globals i "UnsupportedValueKind" [general, ← e.named "TypeError"]
  set i "UnsupportedValueKind" unsupported
  set i "NonFiniteNumber"
    (← makeClass globals i "NonFiniteNumber" [unsupported, ← e.named "ValueError"])
  set i "CyclicStructure"
    (← makeClass globals i "CyclicStructure" [general, ← e.named "ValueError"])

/-- What the literals of values use. -/
def literals (i : Nat) : Run Unit := do
  set i "_LITERAL_ESCAPES" (← Run.allocate (.dict (textEntries literalEntries) none))
  set i "_LITERAL_UNSAFE" (.entity .unsafePattern)
  setFunction i .escapeMatch
  setFunctions i [.quote]
  set i "_EPOCH" (epoch .naive)
  set i "_EPOCH_UTC" (epoch (.fixed 0))
  set i "_MILLISECOND" (.duration 1000)
  setFunctions i [.momentLiteral, .dateLiteral, .literal]
  for r in [Routine.literalInside, .listLiteral, .mappingLiteral] do
    setFunction i r

def run (globals i : Nat) (e : Env) (version : Text) : Run Unit := do
  opening globals i e version
  errorClasses globals i e
  literals i

end RenderSource.Installation
