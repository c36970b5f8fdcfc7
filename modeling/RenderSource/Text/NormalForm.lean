import RenderSource.Text.CodePoint
import RenderSource.Text.CompatibilityData
import RenderSource.Text.CompositionData
/-!
The form in which names are compared: compatibility decomposition, marks in canonical order, then
canonical composition. Names that are written differently can be one name.
-/
namespace RenderSource

namespace NormalForm

def hangulBase : Nat := 0xAC00

def hangulCount : Nat := 11172

def hangulParts (n : Nat) : List Nat :=
  let s := n - hangulBase
  let tail := s % 28
  [0x1100 + s / 588, 0x1161 + s % 588 / 28] ++ (if tail = 0 then [] else [0x11A7 + tail])

def runTarget? (n : Nat) : List (Nat × Nat × Nat) → Option Nat
  | [] => none
  | (first, target, count) :: rest =>
    if n < first then none
    else if n < first + count then some (target + (n - first))
    else runTarget? n rest

def decompose (n : Nat) : List Nat :=
  if n < 0x80 then [n]
  else if hangulBase ≤ n ∧ n < hangulBase + hangulCount then hangulParts n
  else match runTarget? n compatibilityRuns with
    | some m => [m]
    | none => (compatibilitySequences.lookup n).getD [n]

def classIn (n : Nat) : List (Nat × Nat × Nat) → Nat
  | [] => 0
  | (lo, hi, k) :: rest => if n < lo then 0 else if n ≤ hi then k else classIn n rest

def combiningClass (n : Nat) : Nat := if n < 0x80 then 0 else classIn n combiningClasses

/-- Puts a code point in front of a sorted rest; a mark goes behind marks of lower classes. -/
def insertMark (n : Nat) : List Nat → List Nat
  | [] => [n]
  | m :: rest =>
    if combiningClass m ≠ 0 ∧ combiningClass m < combiningClass n then m :: insertMark n rest
    else n :: m :: rest

def order : List Nat → List Nat
  | [] => []
  | n :: rest => insertMark n (order rest)

def composeHangul? (a b : Nat) : Option Nat :=
  if 0x1100 ≤ a ∧ a < 0x1113 ∧ 0x1161 ≤ b ∧ b < 0x1176 then
    some (hangulBase + ((a - 0x1100) * 21 + (b - 0x1161)) * 28)
  else if hangulBase ≤ a ∧ a < hangulBase + hangulCount ∧ (a - hangulBase) % 28 = 0 ∧
      0x11A7 < b ∧ b < 0x11C3 then
    some (a + (b - 0x11A7))
  else none

def compose? (a b : Nat) : Option Nat :=
  (composeHangul? a b).or
    ((compositions.find? fun (x, y, _) => x = a ∧ y = b).map fun (_, _, z) => z)

/-- Composes behind the starter `start`, with the marks `kept` between, the last one first. A mark of
the class of the one before it, or a starter behind marks, is blocked. -/
def composeFrom (start : Nat) (kept : List Nat) : List Nat → List Nat
  | [] => start :: kept.reverse
  | n :: rest =>
    let k := combiningClass n
    let blocked := match kept with
      | [] => false
      | m :: _ => k = 0 || combiningClass m = k
    match if blocked then none else compose? start n with
    | some c => composeFrom c kept rest
    | none =>
      if k = 0 then start :: kept.reverse ++ composeFrom n [] rest
      else composeFrom start (n :: kept) rest

def compose : List Nat → List Nat
  | [] => []
  | n :: rest => if combiningClass n = 0 then composeFrom n [] rest else n :: compose rest

def ofNats (ns : List Nat) : List Nat := compose (order (ns.flatMap decompose))

end NormalForm

def Text.normalName (t : Text) : Text :=
  if t.all fun c => decide (c.val < 0x80) then t
  else (NormalForm.ofNats (t.map CodePoint.val)).filterMap CodePoint.ofNat?

end RenderSource
