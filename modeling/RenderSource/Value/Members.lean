import RenderSource.Fault
/-!
Members: the parts of a value that can be asked for by name. Those of built-in kinds are known from the
start; an object gives what it gives, or fails.
-/
namespace RenderSource.Value

def modulePart (m : Text) : List (String × Value) :=
  if m = wording "datetime" then
    [ ("MINYEAR", .ofInt 1), ("MAXYEAR", .ofInt Date.lastYear), ("UTC", .zone (.fixed 0)) ] ++
    ["date", "datetime", "time", "timedelta", "timezone", "tzinfo"].map fun n =>
      (n, .builtin (wording ("datetime." ++ n)) true)
  else if m = wording "math" then
    [ ("pi", .float (.ofBits 0x400921FB54442D18) .none 0),
      ("e", .float (.ofBits 0x4005BF0A8B145769) .none 0),
      ("tau", .float (.ofBits 0x401921FB54442D18) .none 0),
      ("inf", .float .infinity .none 0),
      ("isfinite", .builtin (wording "isfinite") false) ]
  else []

def classPart (c : Text) : List (String × Value) :=
  if c = wording "datetime.timezone" then [("utc", .zone (.fixed 0))]
  else if c = wording "datetime.date" then
    [("fromordinal", .builtin (wording "datetime.date.fromordinal") false)]
  else []

def extremes (first last step : Value) : List (String × Value) :=
  [("min", first), ("max", last), ("resolution", step)]

def longestDays : Int := 999999999

def dataParts : Value → List (String × Value)
  | .bool b => whole (if b then 1 else 0)
  | .int n _ => whole n
  | .float x _ mark => [("real", .float x .none mark), ("imag", .float .zero .none 0)]
  | .date d =>
    [("year", .ofInt d.year), ("month", .ofInt d.month), ("day", .ofInt d.day)] ++
    extremes (.date ⟨1, 1, 1⟩) (.date ⟨Date.lastYear, 12, 31⟩) (.duration 86400000000)
  | .moment m =>
    [ ("year", .ofInt m.date.year), ("month", .ofInt m.date.month), ("day", .ofInt m.date.day),
      ("hour", .ofInt m.hour), ("minute", .ofInt m.minute), ("second", .ofInt m.second),
      ("microsecond", .ofInt m.microsecond), ("fold", .ofInt 0),
      ("tzinfo", if m.zone = .naive then .none else .zone m.zone) ] ++
    extremes (.moment ⟨⟨1, 1, 1⟩, 0, 0, 0, 0, .naive⟩)
      (.moment ⟨⟨Date.lastYear, 12, 31⟩, 23, 59, 59, 999999, .naive⟩) (.duration 1)
  | .duration n =>
    [ ("days", .ofInt (n.fdiv 86400000000)),
      ("seconds", .ofInt (n.fmod 86400000000 / 1000000)),
      ("microseconds", .ofInt (n.fmod 1000000)) ] ++
    extremes (.duration (-longestDays * 86400000000)) (.duration ((longestDays + 1) * 86400000000 - 1))
      (.duration 1)
  | .zone (.fixed _) =>
    [("utc", .zone (.fixed 0)), ("min", .zone (.fixed (-86340))), ("max", .zone (.fixed 86340))]
  | .entity (.module m) => modulePart m
  | .builtin c true => classPart c
  | _ => []
where
  whole (n : Int) : List (String × Value) :=
    [("real", .ofInt n), ("imag", .ofInt 0), ("numerator", .ofInt n), ("denominator", .ofInt 1)]

def stringMethods : List String := [
  "capitalize", "center", "count", "endswith", "expandtabs", "find", "index", "isalnum", "isalpha",
  "isascii", "isdigit", "islower", "isspace", "istitle", "isupper", "join", "ljust", "lower", "lstrip",
  "maketrans", "partition", "removeprefix", "removesuffix", "replace", "rfind", "rindex", "rjust",
  "rpartition", "rsplit", "rstrip", "split", "splitlines", "startswith", "strip", "swapcase", "title",
  "translate", "upper", "zfill" ]

def wholeMethods : List String :=
  ["as_integer_ratio", "bit_count", "bit_length", "conjugate", "from_bytes", "to_bytes"]

def zoneMethods : List String := ["dst", "fromutc", "tzname", "utcoffset"]

def dateMethods : List String := [
  "ctime", "fromisocalendar", "fromisoformat", "fromordinal", "fromtimestamp", "isocalendar",
  "isoformat", "isoweekday", "replace", "strftime", "timetuple", "today", "toordinal", "weekday" ]

def momentMethods : List String := dateMethods ++ [
  "astimezone", "combine", "date", "dst", "now", "strptime", "time", "timestamp", "timetz", "tzname",
  "utcfromtimestamp", "utcnow", "utcoffset", "utctimetuple" ]

/-- The names of the methods of a value's class, and the class that they are methods of. -/
def methods (st : Store) (v : Value) : List String :=
  match v with
  | .text _ _ => stringMethods ++ [
      "casefold", "encode", "format", "format_map", "isdecimal", "isidentifier", "isnumeric",
      "isprintable" ]
  | .bytes _ => stringMethods ++ ["decode", "fromhex", "hex"]
  | .bool _ | .int _ _ => wholeMethods
  | .float _ _ _ => ["as_integer_ratio", "conjugate", "fromhex", "hex", "is_integer"]
  | .date _ => dateMethods
  | .moment _ => momentMethods
  | .duration _ => ["total_seconds"]
  | .zone .naive => []
  | .zone _ => zoneMethods
  | .ref a => match st.get? a with
    | some (.list _ _) => [
        "append", "clear", "copy", "count", "extend", "index", "insert", "pop", "remove", "reverse",
        "sort" ]
    | some (.tuple _) => ["count", "index"]
    | some (.set _) => [
        "add", "clear", "copy", "difference", "difference_update", "discard", "intersection",
        "intersection_update", "isdisjoint", "issubset", "issuperset", "pop", "remove",
        "symmetric_difference", "symmetric_difference_update", "union", "update" ]
    | some (.dict _ _) => [
        "clear", "copy", "fromkeys", "get", "items", "keys", "pop", "popitem", "setdefault", "update",
        "values" ]
    | some (.proxy _) => ["copy", "get", "items", "keys", "values"]
    | _ => []
  | _ => []

def attribute? (attributes : List (Text × Attribute)) (name : Text) : Except Fault (Option Value) :=
  match attributes.lookup name with
  | some (.held v) => .ok (some v)
  | some (.raising e) => .error (.raised e)
  | .none => .ok .none

/-- The part of a value with this name, where there is one. Asking an object for it may fail. -/
def member? (st : Store) (v : Value) (name : Text) : Except Fault (Option Value) :=
  match v.cell? st with
  | some (.object _ _ attributes) => attribute? attributes name
  | some (.exception _ _ _ attributes) => .ok (attributes.lookup name)
  | _ => .ok (
    match v.dataParts.find? fun (n, _) => wording n = name with
    | some (_, w) => some w
    | .none =>
      if (v.methods st).any fun n => wording n = name then
        some (.entity (.method (v.kind st) name))
      else .none)

def memberOf (st : Store) (v : Value) (name : Text) : Except Fault Value := do
  match ← v.member? st name with
  | some w => return w
  | .none => throw .noAttribute

/-- Why a value that lacks a method cannot be asked to act: a member of that name is no method. -/
def methodFault (st : Store) (v : Value) (name : String) : Fault :=
  match v.member? st (wording name) with
  | .ok (some _) => .wrongType
  | .ok .none => .noAttribute
  | .error e => e

end RenderSource.Value
