import RenderSource.Text.CodePoint
/-!
Percent-encoding of a text as a component of an address: the bytes of its UTF-8 form, all but
unreserved marks, letters and figures by number.
-/
namespace RenderSource

def utf8 (n : Nat) : List Nat :=
  if n < 0x80 then [n]
  else if n < 0x800 then [0xC0 + n / 0x40, 0x80 + n % 0x40]
  else if n < 0x10000 then [0xE0 + n / 0x1000, 0x80 + n / 0x40 % 0x40, 0x80 + n % 0x40]
  else [0xF0 + n / 0x40000, 0x80 + n / 0x1000 % 0x40, 0x80 + n / 0x40 % 0x40, 0x80 + n % 0x40]

def isUnreserved (c : Char) : Bool :=
  c.isAlphanum || c ∈ ['_', '.', '-', '~', '!', '*', '\'', '(', ')']

def upperHexDigit (d : Nat) : Char := (Nat.digitChar d).toUpper

def percentByte (b : Nat) : Text :=
  [.scalar '%', .scalar (upperHexDigit (b / 16)), .scalar (upperHexDigit (b % 16))]

/-- A surrogate has no UTF-8 form. -/
def percentEncode? : Text → Option Text
  | [] => some []
  | .surrogate _ :: _ => none
  | .scalar c :: t =>
    (percentEncode? t).map fun rest =>
      (if isUnreserved c then [.scalar c] else (utf8 c.toNat).flatMap percentByte) ++ rest

def utf8Bytes? (t : Text) : Option (List Nat) :=
  t.characters?.map fun cs => cs.flatMap fun c => utf8 c.toNat

def percentEncodeBytes (safe : List Nat) (bytes : List Nat) : Text :=
  bytes.flatMap fun b =>
    if (Char.ofNat b).isAlphanum && b < 0x80 || (Char.ofNat b) ∈ ['_', '.', '-', '~'] || b ∈ safe then
      [.scalar (Char.ofNat b)]
    else percentByte b

end RenderSource
