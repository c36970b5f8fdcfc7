import RenderSource.Code.Term
import RenderSource.Proofs.Number.Figures
import RenderSource.Proofs.Number.Rounding
/-!
Numbers in source read back: integers by their figures, finite doubles because the decimal that is
written stays inside the rounding interval, in positional form and with an exponent.
-/
namespace RenderSource

namespace Shortest

theorem Interval.contains_scale {i : Interval} {num den k : Nat} (positive : 0 < k) :
    i.Contains (num * k) (den * k) ↔ i.Contains num den := by
  have low : i.low * (den * k) = i.low * den * k := (Nat.mul_assoc _ _ _).symm
  have high : i.high * (den * k) = i.high * den * k := (Nat.mul_assoc _ _ _).symm
  have point : num * k * i.den = num * i.den * k := Nat.mul_right_comm _ _ _
  unfold Contains
  rw [low, high, point, Nat.mul_le_mul_right_iff positive, Nat.mul_le_mul_right_iff positive,
    Nat.mul_lt_mul_right positive, Nat.mul_lt_mul_right positive]

theorem Interval.contains_congr {i : Interval} {num den num' den' : Nat} (positive : 0 < den)
    (positive' : 0 < den') (same : num * den' = num' * den) :
    i.Contains num den ↔ i.Contains num' den' := by
  rw [← contains_scale positive', same, Nat.mul_comm den den', contains_scale positive]

def Interval.ContainsDecimal (i : Interval) (d : Decimal) : Prop :=
  i.Contains (d.digits * 10 ^ d.power.toNat) (10 ^ (-d.power).toNat)

theorem contains_onGrid {i : Interval} {p : Int} {d : Decimal} (h : i.onGrid? p = some d) :
    i.ContainsDecimal d := by
  simp only [Interval.onGrid?] at h
  generalize Binary64.roundHalfEven _ _ = near at h
  generalize (if near = _ then _ else _ : Nat) = far at h
  split at h
  · rename_i holds
    cases h
    exact Interval.contains_of_holds holds
  · split at h
    · rename_i holds
      cases h
      exact Interval.contains_of_holds holds
    · cases h

theorem contains_search {i : Interval} {p : Int} {fuel : Nat} {d : Decimal}
    (h : search i p fuel = some d) : i.ContainsDecimal d := by
  induction fuel generalizing p with
  | zero => cases h
  | succ fuel ih =>
    unfold search at h
    split at h
    · rename_i found
      cases h
      exact contains_onGrid found
    · exact ih h

theorem contains_strip {i : Interval} {fuel : Nat} {d : Decimal} (h : i.ContainsDecimal d) :
    i.ContainsDecimal (strip d fuel) := by
  induction fuel generalizing d with
  | zero => exact h
  | succ fuel ih =>
    unfold strip
    split
    · rename_i zero
      apply ih
      have split : d.digits = d.digits / 10 * 10 := by omega
      refine (Interval.contains_congr (Nat.pow_pos (by omega)) (Nat.pow_pos (by omega)) ?_).mp h
      simp only
      rw [split, Nat.mul_div_cancel _ (by omega : 0 < 10)]
      generalize d.digits / 10 = q
      rcases Int.lt_or_le d.power 0 with down | up
      · have one : d.power.toNat = 0 := by omega
        have two : (d.power + 1).toNat = 0 := by omega
        have three : (-d.power).toNat = (-(d.power + 1)).toNat + 1 := by omega
        rw [one, two, three, Nat.pow_succ]
        ring
      · have one : (-d.power).toNat = 0 := by omega
        have two : (-(d.power + 1)).toNat = 0 := by omega
        have three : (d.power + 1).toNat = d.power.toNat + 1 := by omega
        rw [one, two, three, Nat.pow_succ]
        ring
    · exact h

theorem value_between {x : Binary64} (large : 0 < x.significand) :
    (interval x).low < (interval x).value ∧ (interval x).value < (interval x).high := by
  have up : 0 < 2 ^ (x.exponent - 2).toNat := Nat.two_pow_pos _
  constructor
  · exact Nat.mul_lt_mul_of_pos_right (by split <;> omega) up
  · exact Nat.mul_lt_mul_of_pos_right (by omega) up

/-- On the grid of a thousand places all doubles lie exactly. -/
theorem den_divides (x : Binary64) {places : Nat} (enough : 1076 ≤ places) :
    (interval x).den ∣ 10 ^ places := by
  have least := exponent_least x
  have small : (-(x.exponent - 2)).toNat ≤ places := by omega
  have two : 2 ^ (-(x.exponent - 2)).toNat ∣ 2 ^ places := Nat.pow_dvd_pow 2 small
  exact Nat.dvd_trans two (Nat.pow_dvd_pow_iff (by omega) |>.mpr (by omega))

theorem contains_value {x : Binary64} (large : 0 < x.significand) {places : Nat}
    (enough : 1076 ≤ places) : (interval x).ContainsDecimal
      ⟨(interval x).value * 10 ^ places / (interval x).den, -(places : Int)⟩ := by
  obtain ⟨low, high⟩ := value_between large
  have den : 0 < (interval x).den := Nat.two_pow_pos _
  have exact : (interval x).Contains (interval x).value (interval x).den := by
    unfold Interval.Contains
    have low' := Nat.mul_lt_mul_of_pos_right low den
    have high' := Nat.mul_lt_mul_of_pos_right high den
    split
    · exact ⟨le_of_lt low', le_of_lt high'⟩
    · exact ⟨low', high'⟩
  have power : 0 < 10 ^ (-(-(places : Int))).toNat := Nat.pow_pos (by omega)
  refine (Interval.contains_congr den power ?_).mp exact
  have whole := Nat.div_mul_cancel (Dvd.dvd.mul_left (den_divides x enough) (interval x).value)
  rw [Int.toNat_of_nonpos (by omega : -(places : Int) ≤ 0), Nat.pow_zero, Nat.mul_one, whole]
  simp

theorem contains_ofBinary64 {x : Binary64} (large : 0 < x.significand) :
    (interval x).ContainsDecimal (ofBinary64 x) := by
  unfold ofBinary64
  extract_lets i top
  split
  · rename_i found
    exact contains_strip (contains_search found)
  · have enough : 1076 ≤ 1100 := by omega
    rw [show (-1100 : Int) = -((1100 : Nat) : Int) from rfl]
    generalize 1100 = places at enough ⊢
    exact contains_value large enough

theorem ofDecimal_ofBinary64 {x : Binary64} (plain : x.negative = false) (finite : x.isFinite = true)
    (large : 0 < x.significand) {digits : Nat} {power : Int}
    (same : digits * 10 ^ power.toNat * 10 ^ (-(ofBinary64 x).power).toNat =
      (ofBinary64 x).digits * 10 ^ (ofBinary64 x).power.toNat * 10 ^ (-power).toNat) :
    Binary64.ofDecimal digits power = x := by
  have one : 0 < 10 ^ (-(ofBinary64 x).power).toNat := Nat.pow_pos (by omega)
  have two : 0 < 10 ^ (-power).toNat := Nat.pow_pos (by omega)
  apply nearest_of_contains plain finite large two
  exact (Interval.contains_congr one two same.symm).mp (contains_ofBinary64 large)

end Shortest

theorem Binary64.isNaN_of_finite {x : Binary64} (finite : x.isFinite = true) : x.isNaN = false := by
  simp only [isFinite, bne_iff_ne] at finite
  simp [isNaN, finite]

theorem FloatLayout.text_eq {x : Binary64} (plain : x.negative = false) (finite : x.isFinite = true) :
    x.text = if x.isZero then wording "0.0" else floatLayout.write (Shortest.ofBinary64 x) := by
  simp only [Binary64.text, text, Binary64.isNaN_of_finite finite, finite, sign, plain, Bool.not_true,
    Bool.false_eq_true, ↓reduceIte, List.nil_append]

theorem FloatLayout.text_negative {x : Binary64} (negative : x.negative = true)
    (finite : x.isFinite = true) : x.text = wording "-" ++ x.negate.text := by
  have finite' : x.negate.isFinite = true := finite
  have plain' : x.negate.negative = false := by simp [Binary64.negate, negative]
  have zero : x.negate.isZero = x.isZero := rfl
  have digits : Shortest.ofBinary64 x.negate = Shortest.ofBinary64 x := rfl
  rw [text_eq plain' finite', zero, digits]
  simp only [Binary64.text, text, Binary64.isNaN_of_finite finite, finite, sign, negative,
    Bool.not_true, Bool.false_eq_true, ↓reduceIte]
  split <;> rfl

namespace Term

def EndsNumber (rest : Text) : Prop :=
  ∀ c ∈ rest.head?, Decimal.digitValue? c = Option.none ∧ c ≠ .scalar '.' ∧ c ≠ .scalar 'e'

theorem EndsNumber.figures {rest : Text} (ends : EndsNumber rest) : Decimal.EndsFigures rest :=
  fun c member => (ends c member).1

theorem readExponent_ends {rest : Text} (ends : EndsNumber rest) :
    readExponent? rest = Option.none := by
  unfold readExponent?
  split
  · exact absurd rfl (ends _ rfl).2.2
  · exact absurd rfl (ends _ rfl).2.2
  · rfl

theorem readNumber_unpointed {t r : Text} {ds : List Nat} (figures : Decimal.readDigits t = (ds, r))
    (unpointed : ∀ u, r = .scalar '.' :: u → False) :
    readNumber t = match readExponent? r with
      | Option.none => (.nat (Decimal.ofDigits 10 ds), r)
      | some (e, r') => (.float (Binary64.ofDecimal (Decimal.ofDigits 10 ds) e), r') := by
  unfold readNumber
  rw [figures]
  cases exponent : readExponent? r <;> simp [exponent]

theorem readNumber_nat (n : Nat) {rest : Text} (ends : EndsNumber rest) :
    readNumber (Decimal.ofNat n ++ rest) = (.nat n, rest) := by
  have unpointed : ∀ u, rest = .scalar '.' :: u → False := by
    rintro u rfl
    exact (ends _ rfl).2.1 rfl
  rw [readNumber_unpointed (Decimal.readDigits_ofNat n ends.figures) unpointed,
    readExponent_ends ends, Decimal.ofDigits_digits (by omega)]

theorem endsFigures_scalar {c : Char} (other : Decimal.digitValue? (.scalar c) = Option.none)
    (t : Text) : Decimal.EndsFigures (.scalar c :: t) := by
  intro d member
  cases member
  exact other

theorem readNumber_pointed {ds fs : List Nat} (whole : ∀ d ∈ ds, d < 10) (part : ∀ d ∈ fs, d < 10)
    {rest : Text} (ends : EndsNumber rest) :
    readNumber (ds.map Decimal.digitText ++ .scalar '.' :: (fs.map Decimal.digitText ++ rest)) =
      (.float (Binary64.ofDecimal (Decimal.ofDigits 10 (ds ++ fs)) (-(fs.length : Int))), rest) := by
  unfold readNumber
  rw [Decimal.readDigits_append whole (endsFigures_scalar (by decide) _)]
  simp only
  rw [Decimal.readDigits_append part ends.figures]
  simp [readExponent_ends ends]

theorem readExponent_padded (e : Int) {rest : Text} (ends : EndsNumber rest) :
    readExponent? (wording (if e < 0 then "e-" else "e+") ++ Decimal.padded 2 e.natAbs ++ rest) =
      some (e, rest) := by
  obtain ⟨ds, read, some, value⟩ := Decimal.readDigits_padded 2 e.natAbs ends.figures
  split
  · rename_i down
    rw [show wording "e-" = [.scalar 'e', .scalar '-'] from rfl]
    simp only [List.cons_append, List.nil_append, readExponent?]
    rw [read]
    cases ds with
    | nil => exact absurd rfl some
    | cons d ds => simp only [value]; congr 2; omega
  · rename_i up
    rw [show wording "e+" = [.scalar 'e', .scalar '+'] from rfl]
    simp only [List.cons_append, List.nil_append, readExponent?]
    rw [read]
    cases ds with
    | nil => exact absurd rfl some
    | cons d ds => simp only [value]; congr 2; omega

theorem readNumber_scientific {f : Nat} {fs : List Nat} (first : f < 10) (part : ∀ d ∈ fs, d < 10)
    (e : Int) {rest : Text} (ends : EndsNumber rest) :
    readNumber (floatLayout.scientific ((f :: fs).map Decimal.digitText) e ++ rest) =
      (.float (Binary64.ofDecimal (Decimal.ofDigits 10 (f :: fs)) (e - fs.length)), rest) := by
  have exponent := readExponent_padded e ends
  have mark : ∀ t, Decimal.EndsFigures (wording (if e < 0 then "e-" else "e+") ++ t) := by
    intro t
    split <;> exact endsFigures_scalar (by decide) _
  cases fs with
  | nil =>
    have one : floatLayout.scientific ([f].map Decimal.digitText) e ++ rest =
        [f].map Decimal.digitText ++ (wording (if e < 0 then "e-" else "e+") ++
          Decimal.padded 2 e.natAbs ++ rest) := by
      simp [FloatLayout.scientific, floatLayout]
    have unpointed : ∀ u, wording (if e < 0 then "e-" else "e+") ++ Decimal.padded 2 e.natAbs ++ rest =
        .scalar '.' :: u → False := by
      intro u same
      split at same <;> cases same
    rw [one, readNumber_unpointed (Decimal.readDigits_append (by simpa using first)
      (by rw [List.append_assoc]; exact mark _)) unpointed, exponent]
    simp
  | cons g fs =>
    have more : floatLayout.scientific ((f :: g :: fs).map Decimal.digitText) e ++ rest =
        [f].map Decimal.digitText ++ (.scalar '.' :: ((g :: fs).map Decimal.digitText ++
          (wording (if e < 0 then "e-" else "e+") ++ Decimal.padded 2 e.natAbs ++ rest))) := by
      simp [FloatLayout.scientific, floatLayout, wording, Text.ofString]
    unfold readNumber
    rw [more, Decimal.readDigits_append (by simpa using first) (endsFigures_scalar (by decide) _)]
    simp only
    rw [Decimal.readDigits_append part (by rw [List.append_assoc]; exact mark _)]
    simp only [exponent]
    rfl

theorem replicate_zero (k : Nat) : List.replicate k (CodePoint.scalar '0') =
    (List.replicate k 0).map Decimal.digitText := by
  simp only [List.map_replicate]
  rfl

theorem zeros_small {k z : Nat} (member : z ∈ List.replicate k 0) : z < 10 := by
  rw [List.eq_of_mem_replicate member]
  omega

theorem readNumber_point_behind (d : Shortest.Decimal) {rest : Text} (ends : EndsNumber rest)
    (behind : d.power + (Decimal.digits 10 d.digits).length ≤ 0) :
    readNumber (FloatLayout.point (Decimal.ofNat d.digits)
        (d.power + (Decimal.digits 10 d.digits).length) ++ rest) =
      (.float (Binary64.ofDecimal d.digits d.power), rest) := by
  have small := Decimal.digits_lt (by omega : 2 ≤ 10) d.digits
  have value := Decimal.ofDigits_digits (by omega : 2 ≤ 10) d.digits
  unfold FloatLayout.point Decimal.ofNat
  simp only [replicate_zero, behind, ↓reduceIte]
  generalize Decimal.digits 10 d.digits = ds at *
  let fs := List.replicate (-(d.power + ds.length)).toNat 0 ++ ds
  have fs_length : (fs.length : Int) = -d.power := by simp [fs]; omega
  have fs_small : ∀ f ∈ fs, f < 10 := by
    intro f member
    rcases List.mem_append.mp member with zero | figure
    · exact zeros_small zero
    · exact small f figure
  have read := @readNumber_pointed [0] fs (by simp) fs_small rest ends
  rw [show [0] ++ fs = List.replicate 1 0 ++ fs from rfl, Decimal.ofDigits_zeros,
    Decimal.ofDigits_zeros, value, fs_length, Int.neg_neg] at read
  rw [← read]
  simp [fs, wording, Text.ofString, Decimal.digitText]
  rfl

theorem readNumber_point_among (d : Shortest.Decimal) {rest : Text} (ends : EndsNumber rest)
    (before : 0 < d.power + (Decimal.digits 10 d.digits).length) (down : d.power < 0) :
    readNumber (FloatLayout.point (Decimal.ofNat d.digits)
        (d.power + (Decimal.digits 10 d.digits).length) ++ rest) =
      (.float (Binary64.ofDecimal d.digits d.power), rest) := by
  have small := Decimal.digits_lt (by omega : 2 ≤ 10) d.digits
  have value := Decimal.ofDigits_digits (by omega : 2 ≤ 10) d.digits
  unfold FloatLayout.point Decimal.ofNat
  simp only [replicate_zero, Int.not_le.mpr before, ↓reduceIte]
  generalize Decimal.digits 10 d.digits = ds at *
  have unfilled : (d.power + ds.length - (ds.map Decimal.digitText).length).toNat = 0 := by
    rw [List.length_map]; omega
  have part_length : ((ds.drop (d.power + ds.length).toNat).length : Int) = -d.power := by
    rw [List.length_drop]; omega
  have part_some : (ds.map Decimal.digitText).drop (d.power + ds.length).toNat ≠ [] := by
    rw [Ne, List.drop_eq_nil_iff, List.length_map]
    omega
  have read := @readNumber_pointed (ds.take (d.power + ds.length).toNat)
    (ds.drop (d.power + ds.length).toNat)
    (fun f member => small f (List.mem_of_mem_take member))
    (fun f member => small f (List.mem_of_mem_drop member)) rest ends
  rw [List.take_append_drop, value, part_length, Int.neg_neg, List.map_take, List.map_drop] at read
  rw [← read, unfilled, List.replicate_zero, List.map_nil, List.append_nil,
    if_neg (by simpa using part_some)]
  simp [wording, Text.ofString]

theorem readNumber_point_before (d : Shortest.Decimal) {rest : Text} (ends : EndsNumber rest)
    (before : 0 < d.power + (Decimal.digits 10 d.digits).length) (up : 0 ≤ d.power) :
    readNumber (FloatLayout.point (Decimal.ofNat d.digits)
        (d.power + (Decimal.digits 10 d.digits).length) ++ rest) =
      (.float (Binary64.ofDecimal (d.digits * 10 ^ (d.power.toNat + 1)) (-1)), rest) := by
  have small := Decimal.digits_lt (by omega : 2 ≤ 10) d.digits
  have value := Decimal.ofDigits_digits (by omega : 2 ≤ 10) d.digits
  unfold FloatLayout.point Decimal.ofNat
  simp only [replicate_zero, Int.not_le.mpr before, ↓reduceIte]
  generalize Decimal.digits 10 d.digits = ds at *
  have zeros : (d.power + ds.length - (ds.map Decimal.digitText).length).toNat = d.power.toNat := by
    rw [List.length_map]; omega
  rw [zeros, ← List.map_append]
  let whole := ds ++ List.replicate d.power.toNat 0
  have whole_small : ∀ f ∈ whole, f < 10 := by
    intro f member
    rcases List.mem_append.mp member with figure | zero
    · exact small f figure
    · exact zeros_small zero
  have whole_length : (d.power + ds.length).toNat = (whole.map Decimal.digitText).length := by
    simp [whole]; omega
  have read := @readNumber_pointed whole [0] whole_small (by simp) rest ends
  rw [show whole ++ [0] = ds ++ List.replicate (d.power.toNat + 1) 0 by
      simp [whole, List.replicate_succ'],
    Decimal.ofDigits_append_zeros, value, show (-([0].length : Int)) = -1 from rfl] at read
  rw [← read, whole_length, List.take_length, List.drop_length]
  simp [wording, Text.ofString, Decimal.digitText, whole]
  rfl

/-- What is written for a positive double reads back to it. -/
theorem readNumber_write {x : Binary64} (plain : x.negative = false) (finite : x.isFinite = true)
    (large : 0 < x.significand) {rest : Text} (ends : EndsNumber rest) :
    readNumber (floatLayout.write (Shortest.ofBinary64 x) ++ rest) = (.float x, rest) := by
  have back := @Shortest.ofDecimal_ofBinary64 x plain finite large
  generalize Shortest.ofBinary64 x = d at *
  have value := Decimal.ofDigits_digits (by omega : 2 ≤ 10) d.digits
  have small := Decimal.digits_lt (by omega : 2 ≤ 10) d.digits
  have figures : (Decimal.ofNat d.digits).length = (Decimal.digits 10 d.digits).length :=
    List.length_map _
  have exact := @back d.digits d.power (by ring)
  simp only [FloatLayout.write, figures]
  split
  · rw [show d.power + (Decimal.digits 10 d.digits).length - 1 + 1 =
      d.power + (Decimal.digits 10 d.digits).length by ring]
    rcases Int.lt_or_le 0 (d.power + (Decimal.digits 10 d.digits).length) with before | behind
    · rcases Int.lt_or_le d.power 0 with down | up
      · rw [readNumber_point_among d ends before down, exact]
      · rw [readNumber_point_before d ends before up, back]
        rw [show (-d.power).toNat = 0 by omega]
        simp [Nat.pow_succ]
        ring
    · rw [readNumber_point_behind d ends behind, exact]
  · obtain ⟨f, fs, parts⟩ := List.exists_cons_of_ne_nil (Decimal.digits_ne_nil 10 d.digits)
    rw [parts] at value small
    rw [Decimal.ofNat, parts, readNumber_scientific (small f (by simp))
      (fun g member => small g (List.mem_cons_of_mem f member)) _ ends, value]
    rw [show d.power + (f :: fs).length - 1 - fs.length = d.power by
      rw [List.length_cons]; push_cast; ring, exact]

theorem readNumber_float {x : Binary64} (plain : x.negative = false) (finite : x.isFinite = true)
    {rest : Text} (ends : EndsNumber rest) : readNumber (x.text ++ rest) = (.float x, rest) := by
  rw [FloatLayout.text_eq plain finite]
  split
  · rename_i zero
    have read := @readNumber_pointed [0] [0] (by simp) (by simp) rest ends
    have same : x = Binary64.ofDecimal (Decimal.ofDigits 10 ([0] ++ [0])) (-([0].length : Int)) := by
      obtain ⟨negative, biased, fraction⟩ := x
      simp only [Binary64.isZero, Bool.and_eq_true, decide_eq_true_eq] at zero
      obtain ⟨none, empty⟩ := zero
      simp only at plain
      rw [plain, Fin.ext (a := biased) (b := 0) none, Fin.ext (a := fraction) (b := 0) empty]
      rfl
    rw [same, ← read]
    rfl
  · rename_i nonzero
    have large : 0 < x.significand := by
      simp only [Binary64.isZero, Bool.and_eq_true, decide_eq_true_eq, not_and] at nonzero
      unfold Binary64.significand
      split
      · rename_i low; exact Nat.pos_of_ne_zero (nonzero low)
      · omega
    exact readNumber_write plain finite large ends

end Term

namespace FloatLayout

theorem write_front (d : Shortest.Decimal) :
    ∃ f, f < 10 ∧ ∃ more, floatLayout.write d = Decimal.digitText f :: more := by
  obtain ⟨f, fs, parts⟩ := List.exists_cons_of_ne_nil (Decimal.digits_ne_nil 10 d.digits)
  have small := Decimal.digits_lt (by omega : 2 ≤ 10) d.digits
  rw [parts] at small
  have first : f < 10 := small f (by simp)
  have figures : Decimal.ofNat d.digits = Decimal.digitText f :: fs.map Decimal.digitText := by
    rw [Decimal.ofNat, parts, List.map_cons]
  simp only [write, figures]
  split
  · unfold point
    simp only
    split
    · exact ⟨0, by omega, _, rfl⟩
    · rename_i before
      obtain ⟨k, count⟩ : ∃ k, (d.power + ↑(Decimal.digitText f :: List.map Decimal.digitText fs).length -
          1 + 1).toNat = k + 1 := ⟨_, (Nat.succ_pred_eq_of_pos (by omega)).symm⟩
      rw [count]
      exact ⟨f, first, _, rfl⟩
  · exact ⟨f, first, _, rfl⟩

theorem text_front {x : Binary64} (plain : x.negative = false) (finite : x.isFinite = true) :
    ∃ f, f < 10 ∧ ∃ more, x.text = Decimal.digitText f :: more := by
  rw [text_eq plain finite]
  split
  · exact ⟨0, by omega, _, rfl⟩
  · exact write_front _

end FloatLayout

end RenderSource
