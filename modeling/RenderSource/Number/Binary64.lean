import RenderSource.Number.Decimal
/-!
Double-precision numbers by their three fields. A finite one is the integer `significand` times a
power of two, so comparison with integers is exact.
-/
namespace RenderSource

structure Binary64 where
  negative : Bool
  biased : Fin 2048
  fraction : Fin 0x10000000000000
  deriving DecidableEq, Repr

namespace Binary64

def ofBits (n : UInt64) : Binary64 :=
  ⟨decide (0x8000000000000000 ≤ n.toNat),
   ⟨n.toNat / 0x10000000000000 % 2048, Nat.mod_lt _ (by decide)⟩,
   ⟨n.toNat % 0x10000000000000, Nat.mod_lt _ (by decide)⟩⟩

def toNatBits (x : Binary64) : Nat :=
  (if x.negative then 0x8000000000000000 else 0) + x.biased.val * 0x10000000000000 + x.fraction.val

def isFinite (x : Binary64) : Bool := x.biased.val != 2047

def isNaN (x : Binary64) : Bool := x.biased.val = 2047 && x.fraction.val != 0

def significand (x : Binary64) : Nat :=
  if x.biased.val = 0 then x.fraction.val else 0x10000000000000 + x.fraction.val

def exponent (x : Binary64) : Int :=
  if x.biased.val = 0 then -1074 else (x.biased.val : Int) - 1075

def isZero (x : Binary64) : Bool := x.biased.val = 0 && x.fraction.val = 0

def negate (x : Binary64) : Binary64 := { x with negative := !x.negative }

def zero : Binary64 := ⟨false, 0, 0⟩

def infinity : Binary64 := ⟨false, 2047, 0⟩

/-- Zero has two forms, which are equal as numbers; a NaN equals nothing. -/
def same (x y : Binary64) : Bool :=
  !x.isNaN && !y.isNaN && (decide (x = y) || (x.isZero && y.isZero))

def toInt? (x : Binary64) : Option Int :=
  if !x.isFinite then none
  else
    let size : Option Nat :=
      if 0 ≤ x.exponent then some (x.significand * Nat.pow 2 x.exponent.toNat)
      else
        let d := Nat.pow 2 (-x.exponent).toNat
        if x.significand % d = 0 then some (x.significand / d) else none
    size.map fun n => if x.negative then -(n : Int) else n

def lessThanOne (x : Binary64) : Bool :=
  if x.isNaN then false
  else if x.negative then true
  else if x.isFinite then decide (x.significand * Nat.pow 2 x.exponent.toNat < Nat.pow 2 (-x.exponent).toNat)
  else false

def quotient (x : Binary64) : Int × Nat :=
  let n : Int := x.significand * Nat.pow 2 x.exponent.toNat
  (if x.negative then -n else n, Nat.pow 2 (-x.exponent).toNat)

def truncated (x : Binary64) : Int := x.quotient.1.tdiv x.quotient.2

def less (x y : Binary64) : Bool :=
  if x.isNaN || y.isNaN then false
  else if x.isFinite && y.isFinite then
    decide (x.quotient.1 * y.quotient.2 < y.quotient.1 * x.quotient.2)
  else if x.isFinite then !y.negative
  else if y.isFinite then x.negative
  else x.negative && !y.negative

def lessThanInt (x : Binary64) (n : Int) : Bool :=
  if x.isNaN then false
  else if x.isFinite then decide (x.quotient.1 < n * x.quotient.2)
  else x.negative

def moreThanInt (x : Binary64) (n : Int) : Bool :=
  if x.isNaN then false
  else if x.isFinite then decide (n * x.quotient.2 < x.quotient.1)
  else !x.negative

def roundHalfEven (num den : Nat) : Nat :=
  let q := num / den
  let twice := 2 * (num % den)
  if twice < den then q else if den < twice then q + 1 else q + q % 2

/-- The number with significand `m < 2 ^ 53` and exponent `e`, for a normal or a least exponent. -/
def ofParts (m : Nat) (e : Int) : Binary64 :=
  if m < 0x10000000000000 then ⟨false, 0, Fin.ofNat _ m⟩
  else if 971 < e then infinity
  else ⟨false, Fin.ofNat _ (e + 1075).toNat, Fin.ofNat _ (m - 0x10000000000000)⟩

/-- The nearest double to the positive quotient `num / den`. The exponent is the least one for which
the significand stays below `2 ^ 53`. -/
def nearest (num den : Nat) : Binary64 :=
  if num = 0 then zero
  else
    let guess : Int := (Nat.log2 num : Int) - (Nat.log2 den : Int) - 53
    let scaled (e : Int) : Nat × Nat := (num * Nat.pow 2 (-e).toNat, den * Nat.pow 2 e.toNat)
    let fits (e : Int) : Bool := let (n, d) := scaled e; decide (n < d * 0x20000000000000)
    let e := max (-1074) (if fits guess then guess else guess + 1)
    let (n, d) := scaled e
    let m := roundHalfEven n d
    if m = 0x20000000000000 then ofParts 0x10000000000000 (e + 1) else ofParts m e

def nearestInt (num : Int) (den : Nat) : Binary64 :=
  let x := nearest num.natAbs den
  if num < 0 then x.negate else x

def nan : Binary64 := ⟨false, 2047, Fin.ofNat _ 0x8000000000000⟩

def add (x y : Binary64) : Binary64 :=
  if x.isNaN || y.isNaN then nan
  else if x.isFinite && y.isFinite then
    let (a, b) := x.quotient
    let (c, d) := y.quotient
    let sum := nearestInt (a * d + c * b) (b * d)
    if sum.isZero && x.negative && y.negative then sum.negate else sum
  else if x.isFinite then y
  else if y.isFinite then x
  else if x.negative = y.negative then x else nan

end Binary64

end RenderSource
