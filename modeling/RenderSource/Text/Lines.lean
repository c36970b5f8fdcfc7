import RenderSource.Text.CodePoint
import RenderSource.Text.Ranges
/-!
White space and the ends of lines. A line of a shown source ends at any of eleven marks; a row of
emitted source ends at a newline only.
-/
namespace RenderSource

def blankRanges : List (Nat × Nat) := [
  (0x9, 0xD), (0x1C, 0x20), (0x85, 0x85), (0xA0, 0xA0), (0x1680, 0x1680), (0x2000, 0x200A),
  (0x2028, 0x2029), (0x202F, 0x202F), (0x205F, 0x205F), (0x3000, 0x3000) ]

def CodePoint.isBlank (c : CodePoint) : Bool := Ranges.has blankRanges c.val

def Text.isBlank (t : Text) : Bool := t.all CodePoint.isBlank

def newline : CodePoint := .scalar '\n'

namespace Text

/-- The pieces between newlines; a text has one row more than it has newlines. -/
def rows : Text → List Text
  | [] => [[]]
  | c :: t =>
    if c = newline then [] :: rows t
    else match rows t with
      | [] => [[c]]
      | r :: rs => (c :: r) :: rs

def ofRows (rs : List Text) : Text := joinWith [newline] rs

theorem ofRows_cons_cons (r s : Text) (rs : List Text) :
    ofRows (r :: s :: rs) = r ++ newline :: ofRows (s :: rs) := by
  simp [ofRows, joinWith]

theorem rows_append_newline (r t : Text) (h : newline ∉ r) :
    rows (r ++ newline :: t) = r :: rows t := by
  induction r with
  | nil => simp [rows]
  | cons c r ih =>
    simp only [List.mem_cons, not_or] at h
    simp [rows, Ne.symm h.1, ih h.2]

theorem rows_of_no_newline (r : Text) (h : newline ∉ r) : rows r = [r] := by
  induction r with
  | nil => rfl
  | cons c r ih =>
    simp only [List.mem_cons, not_or] at h
    simp [rows, Ne.symm h.1, ih h.2]

theorem rows_ofRows (rs : List Text) (some_row : rs ≠ []) (h : ∀ r ∈ rs, newline ∉ r) :
    rows (ofRows rs) = rs := by
  induction rs with
  | nil => exact absurd rfl some_row
  | cons r rs ih =>
    cases rs with
    | nil => exact rows_of_no_newline r (h r (by simp))
    | cons s rs =>
      rw [ofRows_cons_cons, rows_append_newline _ _ (h r (by simp)),
        ih (by simp) (fun t ht => h t (List.mem_cons_of_mem r ht))]

def isLineEnd (c : CodePoint) : Bool :=
  c.val ∈ [0xA, 0xB, 0xC, 0xD, 0x1C, 0x1D, 0x1E, 0x85, 0x2028, 0x2029]

/-- The lines of a text whose current line has begun with `line`, last code point first. -/
def linesAfter (line : Text) : Text → List Text
  | [] => if line.isEmpty then [] else [line.reverse]
  | .scalar '\r' :: .scalar '\n' :: t => line.reverse :: linesAfter [] t
  | c :: t => if isLineEnd c then line.reverse :: linesAfter [] t else linesAfter (c :: line) t

def lines (t : Text) : List Text := linesAfter [] t

end Text

end RenderSource
