import RenderSource.Value.Classes
/-!
Names that are in scope everywhere, and what they stand for. Functions that would reach outside of values
are there by name only.
-/
namespace RenderSource.Builtin

def functionNames : List String := [
  "abs", "aiter", "all", "anext", "any", "ascii", "bin", "breakpoint", "callable", "chr", "compile",
  "delattr", "dir", "divmod", "eval", "exec", "format", "getattr", "globals", "hasattr", "hash",
  "hex", "id", "input", "isinstance", "issubclass", "iter", "len", "locals", "max", "min", "next",
  "oct", "open", "ord", "pow", "print", "repr", "round", "setattr", "sorted", "sum", "vars",
  "__build_class__", "__import__" ]

def classNames : List String := [
  "bool", "bytearray", "bytes", "classmethod", "complex", "dict", "enumerate", "filter", "float",
  "frozenset", "int", "list", "map", "memoryview", "object", "property", "range", "reversed", "set",
  "slice", "staticmethod", "str", "super", "tuple", "type", "zip", "BaseException" ]

def objects : List (String × String) := [
  ("copyright", "_Printer"), ("credits", "_Printer"), ("license", "_Printer"),
  ("exit", "Quitter"), ("quit", "Quitter"), ("help", "_Helper"),
  ("NotImplemented", "NotImplementedType"), ("__builtins__", "dict"), ("__loader__", "type"),
  ("__spec__", "ModuleSpec") ]

def find? (n : Text) : Option Value :=
  let among (names : List String) : Bool := names.any fun m => wording m = n
  if n = wording "None" then some .none
  else if n = wording "True" || n = wording "__debug__" then some (.bool true)
  else if n = wording "False" then some (.bool false)
  else if n = wording "Ellipsis" then some .ellipsis
  else if n = wording "__package__" || n = wording "__doc__" then some (.ofText [])
  else if among functionNames then some (.builtin n false)
  else match exceptionAliases.find? fun (m, _) => wording m = n with
    | some (_, m) => some (.builtin (wording m) true)
    | none =>
      if among classNames || among (exceptionParents.map (·.1)) then some (.builtin n true)
      else (objects.find? fun (m, _) => wording m = n).map fun (_, k) => .entity (.module (wording k))

end RenderSource.Builtin
