/-!
Sets of code points given by their ranges in ascending order, ends included.
-/
namespace RenderSource.Ranges

/-- Stops at the first range that begins beyond `n`. -/
def has : List (Nat × Nat) → Nat → Bool
  | [], _ => false
  | (lo, hi) :: rest, n => if n < lo then false else if n ≤ hi then true else has rest n

def Ascending : List (Nat × Nat) → Prop
  | [] => True
  | [(lo, hi)] => lo ≤ hi
  | (lo, hi) :: (lo', hi') :: rest => lo ≤ hi ∧ hi < lo' ∧ Ascending ((lo', hi') :: rest)

end RenderSource.Ranges
