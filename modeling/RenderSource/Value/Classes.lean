import RenderSource.Value.Equality
/-!
Classes of values: which class a value is of, which classes a class derives from, and what counts as a
member of a class. Exceptions form a tree of classes.
-/
namespace RenderSource

def exceptionParents : List (String × String) := [
  ("Exception", "BaseException"), ("BaseExceptionGroup", "BaseException"),
  ("GeneratorExit", "BaseException"), ("KeyboardInterrupt", "BaseException"),
  ("SystemExit", "BaseException"), ("ArithmeticError", "Exception"),
  ("AssertionError", "Exception"), ("AttributeError", "Exception"), ("BufferError", "Exception"),
  ("EOFError", "Exception"), ("ExceptionGroup", "BaseExceptionGroup"),
  ("ImportError", "Exception"), ("ModuleNotFoundError", "ImportError"),
  ("LookupError", "Exception"), ("IndexError", "LookupError"), ("KeyError", "LookupError"),
  ("MemoryError", "Exception"), ("NameError", "Exception"), ("UnboundLocalError", "NameError"),
  ("OSError", "Exception"), ("BlockingIOError", "OSError"), ("ChildProcessError", "OSError"),
  ("ConnectionError", "OSError"), ("BrokenPipeError", "ConnectionError"),
  ("ConnectionAbortedError", "ConnectionError"), ("ConnectionRefusedError", "ConnectionError"),
  ("ConnectionResetError", "ConnectionError"), ("FileExistsError", "OSError"),
  ("FileNotFoundError", "OSError"), ("InterruptedError", "OSError"),
  ("IsADirectoryError", "OSError"), ("NotADirectoryError", "OSError"),
  ("PermissionError", "OSError"), ("ProcessLookupError", "OSError"), ("TimeoutError", "OSError"),
  ("ReferenceError", "Exception"), ("RuntimeError", "Exception"),
  ("NotImplementedError", "RuntimeError"), ("RecursionError", "RuntimeError"),
  ("StopAsyncIteration", "Exception"), ("StopIteration", "Exception"),
  ("SyntaxError", "Exception"), ("IndentationError", "SyntaxError"),
  ("TabError", "IndentationError"), ("SystemError", "Exception"), ("TypeError", "Exception"),
  ("ValueError", "Exception"), ("UnicodeError", "ValueError"),
  ("UnicodeDecodeError", "UnicodeError"), ("UnicodeEncodeError", "UnicodeError"),
  ("UnicodeTranslateError", "UnicodeError"), ("Warning", "Exception"),
  ("BytesWarning", "Warning"), ("DeprecationWarning", "Warning"), ("EncodingWarning", "Warning"),
  ("FutureWarning", "Warning"), ("ImportWarning", "Warning"),
  ("PendingDeprecationWarning", "Warning"), ("ResourceWarning", "Warning"),
  ("RuntimeWarning", "Warning"), ("SyntaxWarning", "Warning"), ("UnicodeWarning", "Warning"),
  ("UserWarning", "Warning"), ("FloatingPointError", "ArithmeticError"),
  ("OverflowError", "ArithmeticError"), ("ZeroDivisionError", "ArithmeticError") ]

def exceptionAliases : List (String × String) :=
  [("EnvironmentError", "OSError"), ("IOError", "OSError")]

namespace Value

def builtinClass (name : String) : Value := .builtin (wording name) true

def mappingClass : Value := builtinClass "collections.abc.Mapping"

def classOf (st : Store) (v : Value) : Value :=
  match v with
  | .absent (.copied n) => .ref n
  | .absent s => .entity (.sentinelClass s)
  | .date _ => builtinClass "datetime.date"
  | .moment _ => builtinClass "datetime.datetime"
  | .duration _ => builtinClass "datetime.timedelta"
  | .zone (.fixed _) => builtinClass "datetime.timezone"
  | .ref a => match st.get? a with
    | some (.exception c _ _ _) => c
    | _ => .builtin (v.kind st) true
  | v => .builtin (v.kind st) true

def builtinBase? (st : Store) : Value → Option Value
  | .int _ (some _) => some (builtinClass "int")
  | .float _ (some _) _ => some (builtinClass "float")
  | .text _ (some _) => some (builtinClass "str")
  | .ref a => match st.get? a with
    | some (.list _ (some _)) => some (builtinClass "list")
    | some (.dict _ (some _)) => some (builtinClass "dict")
    | _ => .none
  | _ => .none

def isClass (st : Store) : Value → Bool
  | .builtin _ isClass => isClass
  | .entity (.sentinelClass _) => true
  | .ref a => match st.get? a with
    | some (.madeClass _ _ _ _) => true
    | _ => false
  | _ => false

/-- Whether a class is one of absent values. Of the classes that source makes it is the one that
derives from no other. -/
def marksAbsence (st : Store) : Value → Bool
  | .entity (.sentinelClass _) => true
  | .ref a => match st.get? a with
    | some (.madeClass _ _ _ bases) => bases.isEmpty
    | _ => false
  | _ => false

def className? (st : Store) : Value → Option Text
  | .builtin name true =>
    some ((name.reverse.takeWhile fun c => c != .scalar '.').reverse)
  | .entity (.sentinelClass s) => some ((Value.absent s).kind st)
  | .ref a => match st.get? a with
    | some (.madeClass name _ _ _) => some name
    | _ => .none
  | _ => .none

def parents (st : Store) : Value → List Value
  | .builtin name true =>
    if name = wording "object" then []
    else if name = wording "bool" then [builtinClass "int"]
    else if name = wording "datetime.datetime" then [builtinClass "datetime.date"]
    else match exceptionParents.find? fun (n, _) => wording n = name with
      | some (_, parent) => [builtinClass parent]
      | .none => [builtinClass "object"]
  | .entity (.sentinelClass _) => [builtinClass "object"]
  | .ref a => match st.get? a with
    | some (.madeClass _ _ _ []) => [builtinClass "object"]
    | some (.madeClass _ _ _ bases) => bases
    | _ => []
  | _ => []

def builtinHeight : Nat := 8

def derivesWithin (st : Store) (d : Value) : Nat → Value → Bool
  | 0, _ => false
  | fuel + 1, c => c = d || (parents st c).any (derivesWithin st d fuel)

def derives (st : Store) (c d : Value) : Bool := derivesWithin st d (st.size + builtinHeight) c

def isExceptionClass (st : Store) (c : Value) : Bool :=
  c.isClass st && derives st c (builtinClass "BaseException")

def isMapping (st : Store) (v : Value) : Bool := (v.entries? st).isSome || v = .entity .filters

/-- Membership in a class, or in one of a tuple of classes; nothing else can be asked for. -/
def isInstanceWithin (st : Store) (v : Value) : Nat → Value → Except Fault Bool
  | 0, _ => .error .tooDeep
  | fuel + 1, c =>
    match c.cell? st with
    | some (.tuple cs) => cs.anyM (isInstanceWithin st v fuel)
    | _ =>
      if !c.isClass st then .error .wrongType
      else if c = mappingClass then .ok (v.isMapping st)
      else .ok (derives st (v.classOf st) c || (v.builtinBase? st).any fun b => derives st b c)

def isInstance (st : Store) (v c : Value) : Except Fault Bool :=
  isInstanceWithin st v (st.size + 1) c

def isCallable (st : Store) (v : Value) : Bool :=
  match v with
  | .builtin _ _ => true
  | .entity (.function _ _) | .entity (.renderer _ _) | .entity .percentQuote => true
  | .entity (.method _ _) => true
  | v => v.isClass st

end Value

namespace Fault

def isBadValue (st : Store) : Fault → Bool
  | badValue | unencodable => true
  | offence (.nonFinite _) | offence (.cyclic _) => true
  | raised v => Value.derives st (v.classOf st) (Value.builtinClass "ValueError")
  | _ => false

end Fault

end RenderSource
