import RenderSource.Calendar.Moment
import RenderSource.Library.Name
import RenderSource.Number.Binary64
/-!
Values that templates work on. Containers and plain objects live in cells of a store and a value
refers to its cell by address, so that sharing, cycles and change in place are visible. All other
values stand for themselves. Beside its cells a store holds the names of functions that run.
-/
namespace RenderSource

/-- Absent values come from the library's own sentinel, from one of another class, or from a copy of
the library that a renderer carries; such a one is known by the address of its class. -/
inductive Sentinel
  | own
  | foreign
  | copied (n : Nat)
  deriving DecidableEq, Repr

abbrev Derived := Option Text

/-- A class derived from that of integers, and the forms that it gives one of them where they are not the
figures: what it is shown as, and its text where that is not the form that it is shown as. -/
structure IntClass where
  name : Text
  shown : Option Text := none
  text : Option Text := none
  deriving DecidableEq, Repr

abbrev Address := Nat

inductive Entity
  /-- A function of the library; run by a frame's names where one is given, else as it is meant. -/
  | function (f : Routine) (frame : Option Nat)
  /-- A render function: the row of its head, and the frame of the function around it. -/
  | renderer (row : Nat) (frame : Option Nat)
  | module (name : Text)
  /-- The filters by name, where nothing else is done with them. -/
  | filters
  /-- Percent-encoding with any marks left as they are. -/
  | percentQuote
  /-- The pattern of code points that a literal cannot hold. -/
  | unsafePattern
  /-- One code point found by the pattern, and its place. -/
  | found (c : CodePoint) (place : Nat)
  /-- The class of a sentinel. -/
  | sentinelClass (origin : Sentinel)
  /-- A method of a value of a built-in class. -/
  | method (cls name : Text)
  deriving DecidableEq, Repr

def Entity.kind : Entity → String
  | .function _ _ => "function"
  | .renderer _ _ => "function"
  | .module _ => "module"
  | .filters => "dict"
  | .percentQuote => "function"
  | .unsafePattern => "Pattern"
  | .found _ _ => "Match"
  | .sentinelClass _ => "type"
  | .method _ _ => "builtin_function_or_method"

inductive Value
  | none
  | absent (origin : Sentinel)
  | bool (b : Bool)
  | int (n : Int) (cls : Option IntClass)
  /-- A NaN is the same object as another only if both carry the same mark. -/
  | float (x : Binary64) (cls : Derived) (mark : Nat)
  | text (t : Text) (cls : Derived)
  | bytes (bs : List UInt8)
  | date (d : Date)
  | moment (m : Moment)
  | zone (z : Zone)
  | ellipsis
  /-- A built-in function, or a built-in class, by its name. -/
  | builtin (name : Text) (isClass : Bool)
  /-- A length of time in microseconds. -/
  | duration (micros : Int)
  /-- Equal only to itself. -/
  | entity (e : Entity)
  | ref (a : Address)
  deriving DecidableEq, Repr

instance : Inhabited Value := ⟨.none⟩

/-- What an object gives for one of its names: a value, or the exception that asking for it raises. -/
inductive Attribute
  | held (v : Value)
  | raising (exception : Value)
  deriving DecidableEq, Repr

inductive Cell
  | list (items : List Value) (cls : Derived)
  | tuple (items : List Value)
  | dict (entries : List (Value × Value)) (cls : Derived)
  /-- A read-only mapping that is not a dict. -/
  | proxy (entries : List (Value × Value))
  | set (items : List Value)
  /-- A plain object: its class, its shown form if it has one, and its attributes. -/
  | object (cls : Text) (shown : Option Text) (attributes : List (Text × Attribute))
  /-- A class that generated source makes: the name of the place where it is made, the frame of the
  function that makes it, and the classes it derives from. -/
  | madeClass (name place : Text) (home : Nat) (bases : List Value)
  /-- An exception: its class and that class's name, what it was made from, and its attributes. -/
  | exception (cls : Value) (name : Text) (args : List Value) (attributes : List (Text × Value))
  /-- Items that are gone through in order, some kinds only once. -/
  | series (kind : Text) (shown : Option Text) (items : List Value) (once : Bool)
  deriving DecidableEq, Repr

instance : Inhabited Cell := ⟨.tuple []⟩

namespace Cell

def kind : Cell → Text
  | .list _ cls => cls.getD (wording "list")
  | .tuple _ => wording "tuple"
  | .dict _ cls => cls.getD (wording "dict")
  | .proxy _ => wording "mappingproxy"
  | .set _ => wording "set"
  | .object cls _ _ => cls
  | .madeClass _ _ _ _ => wording "type"
  | .exception _ name _ _ => name
  | .series kind _ _ _ => kind

def isTrue : Cell → Bool
  | .list vs _ => !vs.isEmpty
  | .tuple vs => !vs.isEmpty
  | .dict es _ => !es.isEmpty
  | .proxy es => !es.isEmpty
  | .set vs => !vs.isEmpty
  | .series _ _ vs once => once || !vs.isEmpty
  | _ => true

end Cell

structure Frame where
  /-- The names that are its own, whether bound or not. -/
  own : List Text
  bound : List (Text × Value)
  /-- The frame of the function around it. -/
  outer : Option Nat
  /-- The name of the place that it is. -/
  place : Text
  deriving DecidableEq, Repr

structure Store where
  cells : Array Cell
  frames : Array Frame := #[]
  deriving Repr

namespace Store

def empty : Store := ⟨#[], #[]⟩

def size (st : Store) : Nat := st.cells.size

def get? (st : Store) (a : Address) : Option Cell := st.cells[a]?

def set (st : Store) (a : Address) (c : Cell) : Store :=
  { st with cells := st.cells.setIfInBounds a c }

def add (st : Store) (c : Cell) : Value × Store :=
  (.ref st.size, { st with cells := st.cells.push c })

theorem size_set (st : Store) (a : Address) (c : Cell) : (st.set a c).size = st.size := by
  simp [size, set]

theorem size_add (st : Store) (c : Cell) : (st.add c).2.size = st.size + 1 := by
  simp [size, add]

end Store

namespace Value

def ofText (t : Text) : Value := .text t .none

def ofInt (n : Int) : Value := .int n .none

def isAbsent : Value → Bool
  | .absent _ => true
  | _ => false

def isMissing : Value → Bool
  | .none => true
  | v => v.isAbsent

def asText? : Value → Option Text
  | .text t _ => some t
  | _ => .none

def asInt? : Value → Option Int
  | .int n _ => some n
  | .bool b => some (if b then 1 else 0)
  | _ => .none

def cell? (st : Store) : Value → Option Cell
  | .ref a => st.get? a
  | _ => .none

def entries? (st : Store) (v : Value) : Option (List (Value × Value)) :=
  match v.cell? st with
  | some (.dict es _) => some es
  | some (.proxy es) => some es
  | _ => .none

def items? (st : Store) (v : Value) : Option (List Value) :=
  match v.cell? st with
  | some (.list vs _) => some vs
  | some (.tuple vs) => some vs
  | _ => .none

def kind (st : Store) : Value → Text
  | .none => wording "NoneType"
  | .absent .foreign => wording "ForeignUndefined"
  | .absent _ => wording "_Undefined"
  | .bool _ => wording "bool"
  | .int _ cls => (cls.map IntClass.name).getD (wording "int")
  | .float _ cls _ => cls.getD (wording "float")
  | .text _ cls => cls.getD (wording "str")
  | .bytes _ => wording "bytes"
  | .date _ => wording "date"
  | .moment _ => wording "datetime"
  | .zone .unspecified => wording "NoOffset"
  | .zone .naive => wording "NoneType"
  | .zone (.fixed _) => wording "timezone"
  | .ellipsis => wording "ellipsis"
  | .builtin _ true => wording "type"
  | .builtin _ false => wording "builtin_function_or_method"
  | .duration _ => wording "timedelta"
  | .entity e => wording e.kind
  | .ref a => ((st.get? a).map Cell.kind).getD (wording "object")

def isTrue (st : Store) : Value → Bool
  | .none => false
  | .absent _ => false
  | .bool b => b
  | .int n _ => n != 0
  | .float x _ _ => !x.isZero
  | .text t _ => !t.isEmpty
  | .bytes bs => !bs.isEmpty
  | .duration n => n != 0
  | .ref a => ((st.get? a).map Cell.isTrue).getD true
  | _ => true

end Value

end RenderSource
