import RenderSource.Number.Shortest
/-!
How doubles are written and read in generated source and in messages: the digits come from
`Shortest`, the layout from one record.
-/
namespace RenderSource

/-- Where positional writing ends, and how an exponent is written. The first digit stands at power
`lowest` at least and below power `beyond` in positional form. -/
structure FloatLayout where
  lowest : Int
  beyond : Int
  exponentFigures : Nat
  infinityText : String
  nanText : String

/-- Numbers from 1e-4 up to below 1e16 are written positionally and keep a decimal point; others have
an exponent with its sign and two figures. -/
def floatLayout : FloatLayout := ⟨-4, 16, 2, "inf", "nan"⟩

namespace FloatLayout

def point (figures : Text) (n : Int) : Text :=
  let zeros (k : Int) : Text := List.replicate k.toNat (.scalar '0')
  if n ≤ 0 then wording "0." ++ zeros (-n) ++ figures
  else
    let whole := figures ++ zeros (n - figures.length)
    let rest := whole.drop n.toNat
    whole.take n.toNat ++ wording "." ++ (if rest.isEmpty then wording "0" else rest)

def scientific (l : FloatLayout) (figures : Text) (e : Int) : Text :=
  let rest := figures.drop 1
  figures.take 1 ++ (if rest.isEmpty then [] else wording "." ++ rest) ++
    wording (if e < 0 then "e-" else "e+") ++ Decimal.padded l.exponentFigures e.natAbs

def write (l : FloatLayout) (d : Shortest.Decimal) : Text :=
  let figures := Decimal.ofNat d.digits
  let first := d.power + figures.length - 1
  if l.lowest ≤ first ∧ first < l.beyond then point figures (first + 1)
  else l.scientific figures first

def sign (x : Binary64) : Text := if x.negative then wording "-" else []

def text (l : FloatLayout) (x : Binary64) : Text :=
  if x.isNaN then wording l.nanText
  else if !x.isFinite then sign x ++ wording l.infinityText
  else if x.isZero then sign x ++ wording "0.0"
  else sign x ++ l.write (Shortest.ofBinary64 x)

end FloatLayout

namespace Binary64

def text (x : Binary64) : Text := floatLayout.text x

def ofDecimal (digits : Nat) (power : Int) : Binary64 :=
  nearest (digits * Nat.pow 10 power.toNat) (Nat.pow 10 (-power).toNat)

end Binary64

end RenderSource
