import RenderSource.Value.Wording
/-!
Literals: source text that evaluates to a value equal to a given one. Entries of a mapping whose
value is absent are left out. The walk goes depth first from left to right and stops at the first
offence.
-/
namespace RenderSource

namespace Moment

/-- A moment is rebuilt from its distance to the epoch in milliseconds, in UTC if it has an offset. -/
def literal (m : Moment) : Text :=
  (match m.zone.offset? with
    | none => wording "datetime.datetime(1970, 1, 1)"
    | some _ => wording "datetime.datetime(1970, 1, 1, tzinfo=datetime.timezone.utc)") ++
  wording " + datetime.timedelta(milliseconds=" ++ Decimal.ofInt m.millis ++ wording ")"

end Moment

def Date.literal (d : Date) : Text :=
  wording "datetime.date.fromordinal(" ++ Decimal.ofNat d.ordinal ++ wording ")"

namespace Value

def plainLiteral (v : Value) : Except Offence Text :=
  match v with
  | .text t _ => .ok t.quote
  | .none => .ok (wording "None")
  | .absent _ => .ok (wording "None")
  | .bool b => .ok (wording (if b then "True" else "False"))
  | .int n _ => match Decimal.ofInt? n with
    | some t => .ok t
    | .none => .error (.tooLong v)
  | .float x _ _ => if x.isFinite then .ok x.text else .error (.nonFinite v)
  | .date d => .ok d.literal
  | .moment m => .ok m.literal
  | _ => .error (.unsupported v)

/-- The calls that are open while the parts of a container are written. -/
def callsInside : Cell → Nat
  | .list _ _ | .tuple _ => 4
  | .dict _ _ | .proxy _ => 2
  | _ => 0

def openCalls (st : Store) : List Address → Nat
  | [] => 0
  | a :: opened => ((st.get? a).map callsInside).getD 0 + openCalls st opened

def overruns (st : Store) (room : Option Nat) (opened : List Address) : Bool :=
  room.any fun n => n < openCalls st opened

/-- The literal inside the containers `opened`, with no more than `room` calls inside one another where that
is bounded. Every container on the way is another cell, so as much fuel as there are cells, and one more, is
enough. -/
def literalWithin (st : Store) (room : Option Nat) : Nat → List Address → Value → Except Offence Text
  | fuel, opened, .ref a =>
    match fuel, st.get? a with
    | 0, _ => .error (.cyclic (.ref a))
    | fuel + 1, some c =>
      let inner := literalWithin st room fuel (a :: opened)
      let deep := overruns st room (a :: opened)
      let items (vs : List Value) : Except Offence Text := do
        if deep then throw (.deep (.ref a))
        if a ∈ opened then throw (.cyclic (.ref a))
        return wording "[" ++ Text.joinWith (wording ",") (← vs.mapM inner) ++ wording "]"
      let entries (es : List (Value × Value)) : Except Offence Text := do
        if deep then throw (.deep (.ref a))
        if a ∈ opened then throw (.cyclic (.ref a))
        let parts ← (es.filter fun (_, v) => !v.isAbsent).mapM fun (k, v) => do
          match k.asText? with
          | .none => throw (.badKey k)
          | some t => return t.quote ++ wording ":" ++ (← inner v)
        return wording "\x7b" ++ Text.joinWith (wording ",") parts ++ wording "\x7d"
      match c with
      | .list vs _ => items vs
      | .tuple vs => items vs
      | .dict es _ => entries es
      | .proxy es => entries es
      | _ => .error (.unsupported (.ref a))
    | _, .none => .error (.unsupported (.ref a))
  | _, _, v => plainLiteral v

/-- The literal of a value, however deep its containers go. -/
def literal (st : Store) (v : Value) : Except Offence Text :=
  literalWithin st Option.none (st.size + 1) [] v

def literalIn (room : Nat) (st : Store) (v : Value) : Except Offence Text :=
  literalWithin st (some room) (st.size + 1) [] v

end Value

namespace Offence

def value : Offence → Value
  | unsupported v => v
  | tooLong v => v
  | badKey v => v
  | nonFinite v => v
  | cyclic v => v
  | deep v => v

def reason? : Offence → Option String
  | tooLong _ => some "integer too large"
  | badKey _ => some "mapping keys must be strings"
  | nonFinite _ => some "non-finite number"
  | _ => none

def shownLimit : Nat := 80

/-- A value that cannot be shown is named by its kind; a long form is cut and marked with dots. -/
def shownValue (st : Store) (v : Value) : Text :=
  let t := match v.shown st with
    | .ok t => t
    | .error _ => wording "<" ++ v.kind st ++ wording ">"
  if t.length > shownLimit then t.take (shownLimit - 3) ++ wording "..." else t

def message (st : Store) : Offence → Text
  | cyclic v => wording "Cannot stringify cyclic " ++ v.kind st
  | o =>
    wording "Cannot stringify " ++ o.value.kind st ++ wording ": " ++ shownValue st o.value ++
      (match o.reason? with
        | some r => wording " (" ++ wording r ++ wording ")"
        | none => [])

end Offence

end RenderSource
