import RenderSource.Number.Binary64
/-!
The fewest decimal digits that read back to the same double. All doubles near a value round to it
inside an interval; the first decimal grid with a point in that interval gives the digits, and of
two points the nearer one is taken.
-/
namespace RenderSource.Shortest

structure Decimal where
  digits : Nat
  power : Int
  deriving DecidableEq, Repr

/-- The reals that round to a double, over one denominator: `low / den` to `high / den`, around
`value / den`. -/
structure Interval where
  low : Nat
  value : Nat
  high : Nat
  den : Nat
  closed : Bool

/-- Below a power of two the next double is half as far away as above it. -/
def interval (x : Binary64) : Interval :=
  let m := x.significand
  let e := x.exponent - 2
  let up := Nat.pow 2 e.toNat
  let narrow := x.fraction.val = 0 && 1 < x.biased.val
  { low := (4 * m - (if narrow then 1 else 2)) * up
    value := 4 * m * up
    high := (4 * m + 2) * up
    den := Nat.pow 2 (-e).toNat
    closed := m % 2 = 0 }

def Interval.holds (i : Interval) (c : Nat) (p : Int) : Bool :=
  let point := c * Nat.pow 10 p.toNat * i.den
  let low := i.low * Nat.pow 10 (-p).toNat
  let high := i.high * Nat.pow 10 (-p).toNat
  if i.closed then decide (low ≤ point ∧ point ≤ high) else decide (low < point ∧ point < high)

/-- The point of the grid `10 ^ p` that the interval holds, if any: the nearer neighbour of the
value, on a tie the even one. -/
def Interval.onGrid? (i : Interval) (p : Int) : Option Decimal :=
  let num := i.value * Nat.pow 10 (-p).toNat
  let unit := i.den * Nat.pow 10 p.toNat
  let c := num / unit
  let near := Binary64.roundHalfEven num unit
  let far := if near = c then c + 1 else c
  if i.holds near p then some ⟨near, p⟩ else if i.holds far p then some ⟨far, p⟩ else none

/-- The greatest `k ≤ start` with `10 ^ k ≤ num / den`, looked for in `fuel` steps downward. -/
def leading (num den : Nat) (start : Int) : Nat → Int
  | 0 => start
  | fuel + 1 =>
    if den * Nat.pow 10 start.toNat ≤ num * Nat.pow 10 (-start).toNat then start
    else leading num den (start - 1) fuel

def search (i : Interval) (p : Int) : Nat → Option Decimal
  | 0 => none
  | fuel + 1 =>
    match i.onGrid? p with
    | some d => some d
    | none => search i (p - 1) fuel

def strip (d : Decimal) : Nat → Decimal
  | 0 => d
  | fuel + 1 => if d.digits % 10 = 0 then strip ⟨d.digits / 10, d.power + 1⟩ fuel else d

def startPower (x : Binary64) : Int :=
  ((Nat.log2 x.significand : Int) + x.exponent) * 30103 / 100000 + 2

/-- The digits of a finite double other than zero. The last resort, the value on the grid of a
thousand places, is exact. -/
def ofBinary64 (x : Binary64) : Decimal :=
  let i := interval x
  let top := leading i.value i.den (startPower x) 8
  match search i top 17 with
  | some d => strip d 20
  | none => ⟨i.value * Nat.pow 10 1100 / i.den, -1100⟩

end RenderSource.Shortest
