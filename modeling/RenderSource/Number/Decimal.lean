import RenderSource.Text.CodePoint
/-!
Natural numbers and integers in figures: decimal without leading zeros, hexadecimal with a fixed
count of figures, and reading both.
-/
namespace RenderSource.Decimal

def digitText (d : Nat) : CodePoint := .scalar (Nat.digitChar d)

def digits (b n : Nat) : List Nat :=
  if _h : 2 ≤ b ∧ b ≤ n then digits b (n / b) ++ [n % b] else [n]
termination_by n
decreasing_by exact Nat.div_lt_self (by omega) (by omega)

def ofNat (n : Nat) : Text := (digits 10 n).map digitText

def ofInt : Int → Text
  | .ofNat n => ofNat n
  | .negSucc n => wording "-" ++ ofNat (n + 1)

def padded (width n : Nat) : Text :=
  let t := ofNat n
  List.replicate (width - t.length) (.scalar '0') ++ t

def hexPadded (width n : Nat) : Text :=
  let t := (digits 16 n).map digitText
  List.replicate (width - t.length) (.scalar '0') ++ t

/-- An integer with more figures than this has no text. -/
def figureLimit : Nat := 4300

def firstTooLong : Nat := Nat.pow 10 figureLimit

def tooLong (n : Int) : Bool := decide (firstTooLong ≤ n.natAbs)

def ofInt? (n : Int) : Option Text := if tooLong n then none else some (ofInt n)

def digitValue? (c : CodePoint) : Option Nat :=
  if 0x30 ≤ c.val ∧ c.val ≤ 0x39 then some (c.val - 0x30) else none

def hexValue? (c : CodePoint) : Option Nat :=
  if 0x30 ≤ c.val ∧ c.val ≤ 0x39 then some (c.val - 0x30)
  else if 0x61 ≤ c.val ∧ c.val ≤ 0x66 then some (c.val - 0x61 + 10)
  else if 0x41 ≤ c.val ∧ c.val ≤ 0x46 then some (c.val - 0x41 + 10)
  else none

def ofDigits (b : Nat) (ds : List Nat) : Nat := ds.foldl (fun n d => n * b + d) 0

def readHex? (t : Text) : Option Nat := (t.mapM hexValue?).map (ofDigits 16)

def readDigits : Text → List Nat × Text
  | [] => ([], [])
  | c :: t =>
    match digitValue? c with
    | some d => let (ds, rest) := readDigits t; (d :: ds, rest)
    | none => ([], c :: t)

end RenderSource.Decimal
