import RenderSource.Calendar.Date
/-!
Moments: a date, a time of day to the microsecond and a zone. A moment without an offset counts from
the epoch as its own clock shows; one with an offset counts in UTC.
-/
namespace RenderSource

/-- A zone is missing, fixed at some seconds east of UTC, or one that names no offset. -/
inductive Zone
  | naive
  | fixed (seconds : Int)
  | unspecified
  deriving DecidableEq, Repr

def Zone.offset? : Zone → Option Int
  | .fixed s => some s
  | _ => none

structure Moment where
  date : Date
  hour : Nat
  minute : Nat
  second : Nat
  microsecond : Nat
  zone : Zone
  deriving DecidableEq, Repr

namespace Moment

def epochOrdinal : Nat := 719163

def Valid (m : Moment) : Prop :=
  m.date.Valid ∧ m.hour < 24 ∧ m.minute < 60 ∧ m.second < 60 ∧ m.microsecond < 1000000 ∧
    ∀ s ∈ m.zone.offset?, -86400 < s ∧ s < 86400

def secondOfDay (m : Moment) : Nat := m.hour * 3600 + m.minute * 60 + m.second

/-- Microseconds since the epoch by the moment's own clock, offset ignored. -/
def clockMicros (m : Moment) : Int :=
  (((m.date.ordinal : Int) - epochOrdinal) * 86400 + m.secondOfDay) * 1000000 + m.microsecond

/-- Microseconds since the epoch, in UTC where the moment has an offset. -/
def micros (m : Moment) : Int := m.clockMicros - (m.zone.offset?.getD 0) * 1000000

/-- Milliseconds since the epoch, rounded toward the past. -/
def millis (m : Moment) : Int := m.micros.fdiv 1000

def ofClockMicros? (zone : Zone) (n : Int) : Option Moment :=
  let day := n.fdiv 86400000000
  let rest := (n.fmod 86400000000).toNat
  let ordinal := day + epochOrdinal
  if ordinal < 1 then none
  else (Date.ofOrdinal? ordinal.toNat).map fun date =>
    { date
      hour := rest / 3600000000
      minute := rest / 60000000 % 60
      second := rest / 1000000 % 60
      microsecond := rest % 1000000
      zone }

/-- Moments with an offset agree as instants, others by their clocks; the two sorts never agree. -/
def same (a b : Moment) : Bool :=
  a.zone.offset?.isSome = b.zone.offset?.isSome && a.micros = b.micros

end Moment

end RenderSource
