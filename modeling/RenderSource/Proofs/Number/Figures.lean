import Mathlib.Algebra.Group.Nat.Defs
import RenderSource.Number.Decimal
/-!
Figures read back. A number in figures is told by its digits alone, zeros in front do not count, and
reading stops at the first code point that is no figure.
-/
namespace RenderSource.Decimal

theorem hexValue_digitText : ∀ d, d < 16 → hexValue? (digitText d) = some d := by decide

theorem readHex_two {a b : Nat} (ha : a < 16) (hb : b < 16) :
    readHex? [digitText a, digitText b] = some (a * 16 + b) := by
  simp [readHex?, hexValue_digitText a ha, hexValue_digitText b hb, ofDigits]

theorem readHex_four {a b c d : Nat} (ha : a < 16) (hb : b < 16) (hc : c < 16) (hd : d < 16) :
    readHex? [digitText a, digitText b, digitText c, digitText d] =
      some (((a * 16 + b) * 16 + c) * 16 + d) := by
  simp [readHex?, hexValue_digitText a ha, hexValue_digitText b hb, hexValue_digitText c hc,
    hexValue_digitText d hd, ofDigits]

theorem digits_small {b n : Nat} (small : n < b) : digits b n = [n] := by
  rw [digits]; simp; omega

theorem digits_step {b n : Nat} (base : 2 ≤ b) (large : b ≤ n) :
    digits b n = digits b (n / b) ++ [n % b] := by
  rw [digits]; simp [base, large]

theorem digits_lt {b : Nat} (base : 2 ≤ b) (n : Nat) : ∀ d ∈ digits b n, d < b := by
  induction n using Nat.strongRecOn with
  | ind n ih =>
    intro d member
    by_cases large : b ≤ n
    · rw [digits_step base large, List.mem_append, List.mem_singleton] at member
      rcases member with front | rfl
      · exact ih (n / b) (Nat.div_lt_self (by omega) base) d front
      · exact Nat.mod_lt n (by omega)
    · rw [digits_small (by omega), List.mem_singleton] at member
      omega

theorem hexPadded_two {n : Nat} (bound : n < 256) :
    hexPadded 2 n = [digitText (n / 16), digitText (n % 16)] := by
  by_cases small : n < 16
  · have zero : n / 16 = 0 := by omega
    have same : n % 16 = n := by omega
    simp [hexPadded, digits_small small, zero, same]
    rfl
  · rw [hexPadded, digits_step (by omega) (by omega), digits_small (by omega)]
    simp

theorem hexPadded_four {n : Nat} (low : 4096 ≤ n) (high : n < 65536) :
    hexPadded 4 n = [digitText (n / 4096), digitText (n / 256 % 16), digitText (n / 16 % 16),
      digitText (n % 16)] := by
  have one : n / 16 / 16 = n / 256 := by omega
  have two : n / 256 / 16 = n / 4096 := by omega
  rw [hexPadded, digits_step (by omega) (by omega), digits_step (by omega) (by omega),
    digits_step (by omega) (by omega), digits_small (by omega)]
  simp [one, two]

theorem digits_ne_nil (b n : Nat) : digits b n ≠ [] := by
  rw [digits]; split <;> simp

theorem foldl_figures (b start : Nat) (ds : List Nat) :
    ds.foldl (fun n d => n * b + d) start = start * b ^ ds.length + ofDigits b ds := by
  induction ds generalizing start with
  | nil => simp [ofDigits]
  | cons d ds ih =>
    rw [ofDigits, List.foldl_cons, List.foldl_cons, ih, ih (0 * b + d), List.length_cons,
      Nat.pow_succ, Nat.add_mul, Nat.add_mul, Nat.mul_assoc, Nat.mul_comm b]
    simp [Nat.add_assoc]

theorem ofDigits_append (b : Nat) (ds es : List Nat) :
    ofDigits b (ds ++ es) = ofDigits b ds * b ^ es.length + ofDigits b es := by
  rw [ofDigits, List.foldl_append, foldl_figures]
  rfl

theorem ofDigits_digits {b : Nat} (base : 2 ≤ b) (n : Nat) : ofDigits b (digits b n) = n := by
  induction n using Nat.strongRecOn with
  | ind n ih =>
    by_cases large : b ≤ n
    · rw [digits_step base large, ofDigits_append, ih (n / b) (Nat.div_lt_self (by omega) base)]
      simp only [List.length_singleton, Nat.pow_one, ofDigits, List.foldl_cons, List.foldl_nil,
        Nat.zero_mul, Nat.zero_add]
      rw [Nat.mul_comm, Nat.div_add_mod]
    · rw [digits_small (by omega)]
      simp [ofDigits]

theorem ofDigits_zeros (b k : Nat) (ds : List Nat) :
    ofDigits b (List.replicate k 0 ++ ds) = ofDigits b ds := by
  have zeros : ofDigits b (List.replicate k 0) = 0 := by
    induction k with
    | zero => rfl
    | succ k ih => simpa [ofDigits, List.replicate_succ] using ih
  rw [ofDigits_append, zeros, Nat.zero_mul, Nat.zero_add]

theorem ofDigits_append_zeros (b k : Nat) (ds : List Nat) :
    ofDigits b (ds ++ List.replicate k 0) = ofDigits b ds * b ^ k := by
  have zeros := ofDigits_zeros b k []
  simp only [List.append_nil] at zeros
  rw [ofDigits_append, zeros, List.length_replicate]
  rfl

def EndsFigures (rest : Text) : Prop := ∀ c ∈ rest.head?, digitValue? c = none

theorem digitValue_digitText : ∀ d, d < 10 → digitValue? (digitText d) = some d := by decide

theorem readDigits_append {ds : List Nat} (small : ∀ d ∈ ds, d < 10) {rest : Text}
    (ends : EndsFigures rest) : readDigits (ds.map digitText ++ rest) = (ds, rest) := by
  induction ds with
  | nil =>
    cases rest with
    | nil => rfl
    | cons c r =>
      have none := ends c rfl
      simp [readDigits, none]
  | cons d ds ih =>
    have here := digitValue_digitText d (small d (by simp))
    have later := ih (fun e member => small e (List.mem_cons_of_mem d member))
    simp [readDigits, here, later]

theorem readDigits_ofNat (n : Nat) {rest : Text} (ends : EndsFigures rest) :
    readDigits (ofNat n ++ rest) = (digits 10 n, rest) :=
  readDigits_append (digits_lt (by omega) n) ends

theorem padded_eq (width n : Nat) : padded width n =
    (List.replicate (width - (digits 10 n).length) 0 ++ digits 10 n).map digitText := by
  simp only [padded, ofNat, List.map_append, List.map_replicate, List.length_map]
  rfl

theorem readDigits_padded (width n : Nat) {rest : Text} (ends : EndsFigures rest) :
    ∃ ds, readDigits (padded width n ++ rest) = (ds, rest) ∧ ds ≠ [] ∧ ofDigits 10 ds = n := by
  refine ⟨List.replicate (width - (digits 10 n).length) 0 ++ digits 10 n, ?_, ?_, ?_⟩
  · rw [padded_eq]
    apply readDigits_append _ ends
    intro d member
    rcases List.mem_append.mp member with zero | figure
    · have := List.eq_of_mem_replicate zero; omega
    · exact digits_lt (by omega) n d figure
  · simp [digits_ne_nil]
  · rw [ofDigits_zeros, ofDigits_digits (by omega)]

end RenderSource.Decimal
