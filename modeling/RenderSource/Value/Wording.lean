import RenderSource.Fault
import RenderSource.Calendar.Wording
import RenderSource.Number.FloatText
import RenderSource.Text.Quoted
/-!
Values in words: `plainText` is what output shows, `shown` what messages and container texts show. A
container inside itself is abbreviated. Both fail with `badValue` on an integer beyond the figure
limit and on a plain object without a shown form. Functions have no fixed wording, for theirs tells
where they lie in memory.
-/
namespace RenderSource

namespace Entity

def filterNames : List Text := LibraryFunction.filters.map fun (n, _) => wording n

def shown : Entity → Text
  | .function f _ => wording ("<function " ++ f.name ++ ">")
  | .renderer _ _ => wording "<function>"
  | .module name => wording "<module '" ++ name ++ wording "'>"
  | .filters =>
    wording "\x7b" ++ commaSeparated (filterNames.map Text.shown) ++ wording "\x7d"
  | .percentQuote => wording "<function quote>"
  | .unsafePattern => wording "re.compile(" ++
      (wording "[\\x00-\\x1f\\x7f\"\\\\\\ud800-\\udfff]").shown ++ wording ")"
  | .found c place => wording "<re.Match object; span=(" ++ Decimal.ofNat place ++ wording ", " ++
      Decimal.ofNat (place + 1) ++ wording "), match=" ++ Text.shown [c] ++ wording ">"
  | .sentinelClass .foreign => wording "<class 'ForeignUndefined'>"
  | .sentinelClass _ => wording "<class '_Undefined'>"
  | .method cls name =>
    wording "<built-in method " ++ name ++ wording " of " ++ cls ++ wording " object>"

end Entity

namespace Value

def plainShown : Value → Except Fault Text
  | .none => .ok (wording "None")
  | .absent .foreign => .ok (wording "FOREIGN")
  | .absent _ => .ok (wording "UNDEFINED")
  | .bool b => .ok (wording (if b then "True" else "False"))
  | .int _ (some ⟨_, some t, _⟩) => .ok t
  | .int n _ => match Decimal.ofInt? n with
    | some t => .ok t
    | .none => .error .badValue
  | .float x _ _ => .ok x.text
  | .text t _ => .ok t.shown
  | .bytes bs => .ok (Text.shownBytes bs)
  | .date d => .ok d.shown
  | .moment m => .ok m.shown
  | .zone z => .ok z.shown
  | .ellipsis => .ok (wording "Ellipsis")
  | .builtin name true => .ok (wording "<class '" ++ name ++ wording "'>")
  | .builtin name false => .ok (wording "<built-in function " ++ name ++ wording ">")
  | .duration n => .ok (durationShown n)
  | .entity e => .ok e.shown
  | .ref _ => .error .badValue

def abbreviation : Cell → Text
  | .list _ _ => wording "[...]"
  | .tuple _ => wording "(...)"
  | .dict _ _ => wording "\x7b...\x7d"
  | .proxy _ => wording "mappingproxy(\x7b...\x7d)"
  | .set _ => wording "set(...)"
  | _ => []

def entriesShown (inner : Value → Except Fault Text) (es : List (Value × Value)) :
    Except Fault Text := do
  let parts ← es.mapM fun (k, v) => do return (← inner k) ++ wording ": " ++ (← inner v)
  return wording "\x7b" ++ commaSeparated parts ++ wording "\x7d"

/-- The shown form inside the containers `opened`. Every container on the way is another cell, so
as much fuel as there are cells, and one more, is enough. -/
def shownWithin (st : Store) : Nat → List Address → Value → Except Fault Text
  | fuel, opened, .ref a =>
    match fuel, st.get? a with
    | 0, _ => .error .tooDeep
    | _, .none => .error .badValue
    | _, some (.object _ (some t) _) => .ok t
    | _, some (.object _ .none _) => .error .badValue
    | _, some (.madeClass name place _ _) =>
      .ok (wording "<class '" ++ place ++ name ++ wording "'>")
    | _, some (.series kind shown _ _) => .ok (shown.getD (wording "<" ++ kind ++ wording ">"))
    | fuel + 1, some c =>
      if a ∈ opened then .ok (abbreviation c)
      else
        let inner := shownWithin st fuel (a :: opened)
        match c with
        | .list vs _ => do return wording "[" ++ commaSeparated (← vs.mapM inner) ++ wording "]"
        | .tuple [v] => do return wording "(" ++ (← inner v) ++ wording ",)"
        | .tuple vs => do return wording "(" ++ commaSeparated (← vs.mapM inner) ++ wording ")"
        | .dict es _ => entriesShown inner es
        | .proxy es => do
          return wording "mappingproxy(" ++ (← entriesShown inner es) ++ wording ")"
        | .set [] => .ok (wording "set()")
        | .set vs => do
          return wording "\x7b" ++ commaSeparated (← vs.mapM inner) ++ wording "\x7d"
        | .exception _ name args _ => do
          return name ++ wording "(" ++ commaSeparated (← args.mapM inner) ++ wording ")"
        | _ => .error .badValue
  | _, _, v => plainShown v

def shown (st : Store) (v : Value) : Except Fault Text := shownWithin st (st.size + 1) [] v

def plainWording (st : Store) : Value → Except Fault Text
  | .text t _ => .ok t
  | .int _ (some ⟨_, _, some t⟩) => .ok t
  | .absent _ => .ok []
  | .date d => .ok d.text
  | .moment m => .ok m.text
  | .zone z => .ok z.text
  | .duration n => .ok (durationText n)
  | v => v.shown st

/-- An exception says what it was made from: nothing, one thing as its text, or several shown. A
missing key is shown. -/
def exceptionText (st : Store) : Nat → Value → Except Fault Text
  | 0, _ => .error .tooDeep
  | fuel + 1, .ref a => match st.get? a with
    | some (.exception _ name args _) => match args with
      | [] => .ok []
      | [v] => if name = wording "KeyError" then v.shown st else exceptionText st fuel v
      | vs => do
        return wording "(" ++ commaSeparated (← vs.mapM (Value.shown st)) ++ wording ")"
    | some (.proxy es) => entriesShown (shownWithin st st.size [a]) es
    | _ => Value.shown st (.ref a)
  | _, v => plainWording st v

/-- A read-only mapping is written as the dict it holds. -/
def plainText (st : Store) : Value → Except Fault Text
  | .ref a => match st.get? a with
    | some (.proxy es) => entriesShown (shownWithin st st.size [a]) es
    | some (.exception _ _ _ _) => exceptionText st (st.size + 1) (.ref a)
    | _ => Value.shown st (.ref a)
  | v => plainWording st v

end Value

end RenderSource
