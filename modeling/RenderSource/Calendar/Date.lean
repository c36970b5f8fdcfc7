import RenderSource.Number.Decimal
/-!
Days of the Gregorian calendar, extended backward to year 1. `ordinal` counts days with 1 for the
first day of year 1; `ofOrdinal?` goes back.
-/
namespace RenderSource

structure Date where
  year : Nat
  month : Nat
  day : Nat
  deriving DecidableEq, Repr

namespace Date

def isLeap (year : Nat) : Bool := year % 4 = 0 && (year % 100 != 0 || year % 400 = 0)

def monthDays (year month : Nat) : Nat :=
  if month = 2 then (if isLeap year then 29 else 28)
  else if month = 4 ∨ month = 6 ∨ month = 9 ∨ month = 11 then 30
  else 31

/-- Days of the years before `year`. -/
def daysBeforeYear (year : Nat) : Nat :=
  let y := year - 1
  y * 365 + y / 4 - y / 100 + y / 400

def daysBeforeMonth (year : Nat) : Nat → Nat
  | 0 => 0
  | 1 => 0
  | month + 1 => daysBeforeMonth year month + monthDays year month

def ordinal (d : Date) : Nat := daysBeforeYear d.year + daysBeforeMonth d.year d.month + d.day

def lastYear : Nat := 9999

def lastOrdinal : Nat := 3652059

def Valid (d : Date) : Prop :=
  1 ≤ d.year ∧ d.year ≤ lastYear ∧ 1 ≤ d.month ∧ d.month ≤ 12 ∧ 1 ≤ d.day ∧
    d.day ≤ monthDays d.year d.month

/-- The year that day `n`, counted from 0, falls in: the estimate by mean years is at most one off. -/
def yearOfDay (n : Nat) : Nat :=
  let guess := n * 400 / 146097 + 1
  if n < daysBeforeYear guess then guess - 1
  else if daysBeforeYear (guess + 1) ≤ n then guess + 1
  else guess

/-- The month and day of day `n` of a year, counted from 0 at the first day of `month`. -/
def monthOfDay (year month n : Nat) : Nat → Nat × Nat
  | 0 => (month, n + 1)
  | left + 1 =>
    if n < monthDays year month then (month, n + 1)
    else monthOfDay year (month + 1) (n - monthDays year month) left

def ofOrdinal? (n : Nat) : Option Date :=
  if 1 ≤ n ∧ n ≤ lastOrdinal then
    let year := yearOfDay (n - 1)
    let (month, day) := monthOfDay year 1 (n - 1 - daysBeforeYear year) 11
    some ⟨year, month, day⟩
  else none

def text (d : Date) : Text :=
  Decimal.padded 4 d.year ++ wording "-" ++ Decimal.padded 2 d.month ++ wording "-" ++
    Decimal.padded 2 d.day

end Date

end RenderSource
