import Mathlib.Data.List.Basic
import RenderSource.Library.Function
import RenderSource.Library.PercentQuote
/-!
Components of addresses read back. A text becomes bytes as UTF-8 has them, and each byte becomes one unreserved
character or two hexadecimal figures behind a percent sign, so the bytes are told by the component alone. Only a
surrogate has no bytes.
-/
namespace RenderSource

def plainCharacters : List Char :=
  "ABCDEFGHIJKLMNOPQRSTUVWXYZabcdefghijklmnopqrstuvwxyz0123456789_.-~!*'()".toList

def upperHexDigits : List Char := "0123456789ABCDEF".toList

namespace Text

/-- Plain characters, and bytes as two upper-case figures behind a percent sign. -/
inductive IsComponent : Text → Prop
  | nil : IsComponent []
  | plain {c : Char} {t : Text} (stays : c ∈ plainCharacters) (rest : IsComponent t) : IsComponent (.scalar c :: t)
  | byte {a b : Char} {t : Text} (high : a ∈ upperHexDigits) (low : b ∈ upperHexDigits) (rest : IsComponent t) :
    IsComponent (.scalar '%' :: .scalar a :: .scalar b :: t)

def componentBytes? : Text → Option (List UInt8)
  | [] => some []
  | .scalar '%' :: a :: b :: t => do
    let n ← Decimal.readHex? [a, b]
    return UInt8.ofNat n :: (← componentBytes? t)
  | .scalar '%' :: _ => none
  | c :: t => if c.val < 0x80 then (componentBytes? t).map (UInt8.ofNat c.val :: ·) else none

def readComponent? (u : Text) : Option Text := do
  let bytes ← componentBytes? u
  let cs ← bytes.toByteArray.utf8Decode?
  return cs.toList.map .scalar

end Text

def componentMarks : List Nat := [0x21, 0x7E, 0x2A, 0x27, 0x28, 0x29]

theorem toNat_lt (c : Char) : c.toNat < 0x110000 := by
  rcases c.valid with low | high <;> simp only [Char.toNat] <;> omega

theorem utf8_eq (c : Char) : utf8 c.toNat = (String.utf8EncodeChar c).map UInt8.toNat := by
  have bound := toNat_lt c
  have number : c.val.toNat = c.toNat := rfl
  unfold utf8 String.utf8EncodeChar
  simp only [number]
  by_cases one : c.toNat < 0x80
  · rw [if_pos one, if_pos (Nat.le_of_lt_succ one)]
    simp only [List.map_cons, List.map_nil, UInt8.toNat_ofNat', List.cons.injEq, and_true]
    omega
  rw [if_neg one, if_neg (show ¬ c.toNat ≤ 127 by omega)]
  by_cases two : c.toNat < 0x800
  · rw [if_pos two, if_pos (Nat.le_of_lt_succ two)]
    simp only [List.map_cons, List.map_nil, UInt8.toNat_ofNat', List.cons.injEq, and_true]
    omega
  rw [if_neg two, if_neg (show ¬ c.toNat ≤ 2047 by omega)]
  by_cases three : c.toNat < 0x10000
  · rw [if_pos three, if_pos (Nat.le_of_lt_succ three)]
    simp only [List.map_cons, List.map_nil, UInt8.toNat_ofNat', List.cons.injEq, and_true]
    omega
  rw [if_neg three, if_neg (show ¬ c.toNat ≤ 65535 by omega)]
  simp only [List.map_cons, List.map_nil, UInt8.toNat_ofNat', List.cons.injEq, and_true]
  omega

theorem upperHexDigit_mem : ∀ d < 16, upperHexDigit d ∈ upperHexDigits := by decide

theorem readHex?_upper : ∀ b < 256,
    Decimal.readHex? [.scalar (upperHexDigit (b / 16)), .scalar (upperHexDigit (b % 16))] = some b := by
  decide +kernel

/-- A byte is written as figures, or it is the number of a plain character and that is written. The plain characters
are compared by their numbers, which is quicker to decide. -/
theorem byte_written : ∀ b < 256, percentEncodeBytes componentMarks [b] = percentByte b ∨
    b ∈ plainCharacters.map Char.toNat ∧ b < 0x80 ∧ b ≠ '%'.toNat ∧
      percentEncodeBytes componentMarks [b] = [.scalar (Char.ofNat b)] := by
  decide +kernel

theorem byte_cases (b : Nat) (bound : b < 256) :
    (Char.ofNat b ∈ plainCharacters ∧ Char.ofNat b ≠ '%' ∧ (Char.ofNat b).toNat = b ∧ b < 0x80 ∧
      percentEncodeBytes componentMarks [b] = [.scalar (Char.ofNat b)]) ∨
    upperHexDigit (b / 16) ∈ upperHexDigits ∧ upperHexDigit (b % 16) ∈ upperHexDigits ∧
      Decimal.readHex? [.scalar (upperHexDigit (b / 16)), .scalar (upperHexDigit (b % 16))] = some b ∧
      percentEncodeBytes componentMarks [b] = percentByte b := by
  rcases byte_written b bound with written | ⟨listed, small, other, written⟩
  · exact .inr ⟨upperHexDigit_mem _ (by omega), upperHexDigit_mem _ (by omega), readHex?_upper b bound, written⟩
  · obtain ⟨c, plain, rfl⟩ := List.mem_map.mp listed
    rw [Char.ofNat_toNat] at written ⊢
    exact .inl ⟨plain, fun same => other (congrArg Char.toNat same), rfl, small, written⟩

theorem percentEncodeBytes_cons (safe : List Nat) (b : Nat) (bs : List Nat) :
    percentEncodeBytes safe (b :: bs) = percentEncodeBytes safe [b] ++ percentEncodeBytes safe bs := by
  simp [percentEncodeBytes]

theorem isComponent_bytes (bs : List UInt8) :
    Text.IsComponent (percentEncodeBytes componentMarks (bs.map UInt8.toNat)) := by
  induction bs with
  | nil => exact .nil
  | cons b bs ih =>
    rw [List.map_cons, percentEncodeBytes_cons]
    rcases byte_cases b.toNat b.toNat_lt with ⟨stays, _, _, _, written⟩ | ⟨high, low, _, written⟩
    · rw [written]
      exact .plain stays ih
    · rw [written]
      exact .byte high low ih

theorem componentBytes?_bytes (bs : List UInt8) :
    Text.componentBytes? (percentEncodeBytes componentMarks (bs.map UInt8.toNat)) = some bs := by
  induction bs with
  | nil => rfl
  | cons b bs ih =>
    rw [List.map_cons, percentEncodeBytes_cons]
    rcases byte_cases b.toNat b.toNat_lt with ⟨_, other, number, small, written⟩ | ⟨_, _, read, written⟩
    · have plain : CodePoint.scalar (Char.ofNat b.toNat) ≠ .scalar '%' := fun same => other (CodePoint.scalar.inj same)
      rw [written, List.singleton_append, Text.componentBytes?, ih]
      · simp [CodePoint.val, number, small]
      · exact fun _ _ _ same => absurd same plain
      · exact plain
    · simp [written, percentByte, Text.componentBytes?, read, ih]

theorem isUnreserved_small {c : Char} (unreserved : isUnreserved c = true) : c.toNat < 0x80 := by
  have below : ∀ {last : Char}, c.val ≤ last.val → last.toNat < 0x80 → c.toNat < 0x80 := fun bound few =>
    Nat.lt_of_le_of_lt (UInt32.le_iff_toNat_le.mp bound) few
  rcases Bool.or_eq_true_iff.mp unreserved with word | mark
  · rcases Bool.or_eq_true_iff.mp word with letter | digit
    · rcases Bool.or_eq_true_iff.mp letter with upper | lower
      · exact below (of_decide_eq_true upper).2 (by decide : 'Z'.toNat < 0x80)
      · exact below (of_decide_eq_true (Bool.and_eq_true_iff.mp lower).2) (by decide : 'z'.toNat < 0x80)
    · exact below (of_decide_eq_true (Bool.and_eq_true_iff.mp digit).2) (by decide : '9'.toNat < 0x80)
  · have listed := of_decide_eq_true mark
    simp only [List.mem_cons, List.not_mem_nil, or_false] at listed
    rcases listed with rfl | rfl | rfl | rfl | rfl | rfl | rfl | rfl | rfl <;> decide

theorem utf8_large {n : Nat} (bound : n < 0x110000) (large : 0x80 ≤ n) : ∀ b ∈ utf8 n, 0x80 ≤ b ∧ b < 256 := by
  intro b member
  unfold utf8 at member
  rw [if_neg (by omega)] at member
  repeat' split at member
  all_goals
    simp only [List.mem_cons, List.not_mem_nil, or_false] at member
    omega

theorem percentEncode_character (c : Char) :
    (if isUnreserved c then [.scalar c] else (utf8 c.toNat).flatMap percentByte) =
      percentEncodeBytes componentMarks (utf8 c.toNat) := by
  have single : ∀ n < 0x80, (if isUnreserved (Char.ofNat n) then [.scalar (Char.ofNat n)] else percentByte n) =
      percentEncodeBytes componentMarks [n] := by decide
  have several : ∀ b < 256, 0x80 ≤ b → percentByte b = percentEncodeBytes componentMarks [b] := by decide +kernel
  by_cases small : c.toNat < 0x80
  · have one : utf8 c.toNat = [c.toNat] := if_pos small
    rw [one, ← single c.toNat small, Char.ofNat_toNat, List.flatMap_singleton]
  · have reserved : ¬ isUnreserved c = true := fun unreserved => small (isUnreserved_small unreserved)
    rw [if_neg reserved, percentEncodeBytes]
    refine List.flatMap_congr fun b member => ?_
    obtain ⟨low, high⟩ := utf8_large (toNat_lt c) (Nat.le_of_not_lt small) b member
    have written := several b high low
    rwa [percentEncodeBytes, List.flatMap_singleton] at written

theorem percentEncode_eq (s : Text) :
    percentEncode? s = (utf8Bytes? s).map (percentEncodeBytes componentMarks) := by
  induction s with
  | nil => rfl
  | cons c s ih =>
    cases c with
    | surrogate u => rfl
    | scalar c =>
      rw [percentEncode?, ih, percentEncode_character]
      simp only [utf8Bytes?, Text.characters?, List.mapM_cons]
      cases List.mapM (m := Option) _ s <;> simp [percentEncodeBytes]

namespace Text

def HasSurrogate (s : Text) : Prop := ∃ c ∈ s, 0xD800 ≤ c.val ∧ c.val ≤ 0xDFFF

theorem characters?_scalars (cs : List Char) : characters? (cs.map .scalar) = some cs := by
  induction cs with
  | nil => rfl
  | cons c cs ih =>
    rw [characters?] at ih ⊢
    rw [List.map_cons, List.mapM_cons, ih]
    rfl

theorem surrogate_or (s : Text) :
    (s.HasSurrogate ∧ s.characters? = none) ∨ ¬ s.HasSurrogate ∧ ∃ cs : List Char, s = cs.map .scalar := by
  induction s with
  | nil =>
    refine .inr ⟨?_, [], rfl⟩
    rintro ⟨c, member, _⟩
    cases member
  | cons c s ih =>
    cases c with
    | surrogate u =>
      have bound := u.isLt
      refine .inl ⟨⟨.surrogate u, List.mem_cons_self, ?_⟩, rfl⟩
      simp only [CodePoint.val]
      omega
    | scalar c =>
      rcases ih with ⟨⟨d, member, half⟩, unreadable⟩ | ⟨whole, cs, rfl⟩
      · refine .inl ⟨⟨d, List.mem_cons_of_mem _ member, half⟩, ?_⟩
        rw [characters?] at unreadable ⊢
        rw [List.mapM_cons, unreadable]
        rfl
      · refine .inr ⟨?_, c :: cs, rfl⟩
        rintro ⟨d, member, low, high⟩
        rcases List.mem_cons.mp member with rfl | later
        · simp only [CodePoint.val] at low high
          rcases c.valid with below | above <;> simp only [Char.toNat] at low high <;> omega
        · exact whole ⟨d, later, low, high⟩

theorem utf8Bytes?_scalars (cs : List Char) :
    utf8Bytes? (cs.map .scalar) = some ((cs.flatMap String.utf8EncodeChar).map UInt8.toNat) := by
  rw [utf8Bytes?, characters?_scalars, Option.map_some, List.map_flatMap]
  simp only [utf8_eq]

end Text

def componentOf (cs : List Char) : Text :=
  percentEncodeBytes componentMarks ((cs.flatMap String.utf8EncodeChar).map UInt8.toNat)

theorem percentEncode_scalars (cs : List Char) : percentEncode? (cs.map .scalar) = some (componentOf cs) := by
  rw [percentEncode_eq, Text.utf8Bytes?_scalars]
  rfl

theorem componentOf_append (cs ds : List Char) : componentOf (cs ++ ds) = componentOf cs ++ componentOf ds := by
  simp [componentOf, percentEncodeBytes]

theorem readComponent?_componentOf (cs : List Char) : Text.readComponent? (componentOf cs) = some (cs.map .scalar) := by
  have bytes : (cs.flatMap String.utf8EncodeChar).toByteArray = cs.utf8Encode := rfl
  rw [Text.readComponent?, componentOf, componentBytes?_bytes, Option.bind_eq_bind, Option.bind_some, bytes,
    List.utf8Decode?_utf8Encode]
  rfl

open LibraryFunction (apply)

variable (call : Value → List Value → Run Value) (st : Store) (s : Text) (cls : Derived)

theorem apply_filterUrl : apply call .filterUrl [.text s cls] st =
    (match percentEncode? s with
      | some u => .ok (.ofText u)
      | none => .error .unencodable, st) := by
  have text : (Value.text s cls).toText st = .ok s := rfl
  have filtered : (Value.text s cls).filterUrl st = match percentEncode? s with
      | some u => .ok (.ofText u)
      | none => .error .unencodable := by
    rw [Value.filterUrl, text]
    change (match percentEncode? s with
      | some u => pure (Value.ofText u)
      | none => throw Fault.unencodable) = _
    cases percentEncode? s <;> rfl
  exact congrArg (·, st) filtered

theorem percentQuote_eq : Library.percentQuote [.text s cls] [(wording "safe", .ofText (wording "!~*'()"))] st =
    apply call .filterUrl [.text s cls] st := by
  have marks : (wording "!~*'()").filterMap (fun c => if c.val < 0x80 then some c.val else none) = componentMarks := by
    decide
  rw [apply_filterUrl, percentEncode_eq]
  cases bytes : utf8Bytes? s with
  | none =>
    simp only [Library.percentQuote, bytes, ↓reduceIte, pure_bind]
    rfl
  | some bs =>
    simp only [Library.percentQuote, bytes, ↓reduceIte, pure_bind, Value.ofText, marks]
    cases bs <;> rfl

/-- A text as a component of an address, of whatever class it is: it fails just where a surrogate stands in the text.
Else the component is of plain characters and escapes, reads back as the text, and is put together of the components of
the parts of the text. -/
theorem filterUrl_lossless :
    (apply call .filterUrl [.text s cls] st = (.error .unencodable, st) ↔ s.HasSurrogate) ∧
      Library.percentQuote [.text s cls] [(wording "safe", .ofText (wording "!~*'()"))] st =
        apply call .filterUrl [.text s cls] st ∧
      (¬ s.HasSurrogate → ∃ u, apply call .filterUrl [.text s cls] st = (.ok (.ofText u), st) ∧ u.IsComponent ∧
        u.readComponent? = some s ∧ ∀ t w, apply call .filterUrl [.text t cls] st = (.ok (.ofText w), st) →
          apply call .filterUrl [.text (s ++ t) cls] st = (.ok (.ofText (u ++ w)), st)) := by
  refine ⟨?_, percentQuote_eq call st s cls, fun whole => ?_⟩
  · rcases s.surrogate_or with ⟨broken, unreadable⟩ | ⟨whole, cs, rfl⟩
    · have none : percentEncode? s = none := by rw [percentEncode_eq, utf8Bytes?, unreadable]; rfl
      rw [apply_filterUrl, none]
      exact iff_of_true rfl broken
    · rw [apply_filterUrl, percentEncode_scalars]
      exact iff_of_false nofun whole
  · obtain ⟨cs, rfl⟩ := (s.surrogate_or.resolve_left fun broken => whole broken.1).2
    refine ⟨componentOf cs, ?_, isComponent_bytes _, readComponent?_componentOf cs, fun t w encoded => ?_⟩
    · rw [apply_filterUrl, percentEncode_scalars]
    · rcases t.surrogate_or with ⟨_, unreadable⟩ | ⟨_, ds, rfl⟩
      · have none : percentEncode? t = none := by rw [percentEncode_eq, utf8Bytes?, unreadable]; rfl
        rw [apply_filterUrl, none] at encoded
        cases encoded
      · rw [apply_filterUrl, percentEncode_scalars] at encoded
        cases encoded
        rw [← List.map_append, apply_filterUrl, percentEncode_scalars, componentOf_append]

end RenderSource
