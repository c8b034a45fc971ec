/-!
# Text

A text is a list of code points. Lengths, cuts and comparisons count code points, and a lone
surrogate is an ordinary member, so every text that can be written with escapes has a value here.
-/

namespace JuliaLookup

/-- A Unicode code point. Lone surrogates are included, which `Char` leaves out. -/
abbrev CodePoint := Fin 0x110000

namespace CodePoint

/-- There is a first code point, so numerals stand for code points. -/
instance instNeZero : @NeZero Nat Zero.ofOfNat0 0x110000 := ⟨by decide⟩

instance instLawfulBEq : LawfulBEq CodePoint := inferInstance

def ofChar (c : Char) : CodePoint :=
  ⟨c.toNat, by
    have h := c.valid
    simp only [Char.toNat]
    rcases h with h | ⟨_, h⟩ <;> omega⟩

instance : Coe Char CodePoint := ⟨ofChar⟩

@[simp] theorem val_ofChar (c : Char) : (ofChar c).val = c.toNat := rfl

/-- One half of a UTF-16 pair, which no well-formed text holds. -/
def isSurrogate (c : CodePoint) : Bool := 0xD800 ≤ c.val && c.val ≤ 0xDFFF

/-- Decimal digits of ASCII. -/
def isAsciiDigit (c : CodePoint) : Bool := 48 ≤ c.val && c.val ≤ 57

/-- The character of a code point, unless it is a surrogate. -/
def toChar? (c : CodePoint) : Option Char :=
  if h : c.val.isValidChar then some (Char.ofNatAux c.val h) else none

/-- The lower-case form of an ASCII capital; every other code point is kept. -/
def asciiLower (c : CodePoint) : CodePoint :=
  if h : 65 ≤ c.val ∧ c.val ≤ 90 then ⟨c.val + 32, by omega⟩ else c

end CodePoint

/-- A string of code points. -/
abbrev Text := List CodePoint

namespace Text

instance instLawfulBEq : LawfulBEq Text := inferInstance

/-- Texts are compared code point by code point. -/
instance instLE : LE Text := @List.instLE CodePoint instLTFin

instance decidableLE : DecidableLE Text :=
  @List.decidableLE CodePoint (instDecidableEqFin _) instLTFin Fin.decLt

def ofString (s : String) : Text := s.toList.map CodePoint.ofChar

instance : Coe String Text := ⟨ofString⟩

/-- The string with these code points, if none is a surrogate. -/
def toString? (t : Text) : Option String :=
  (t.mapM CodePoint.toChar?).map String.ofList

/-- Decimal digits of a natural number. -/
def ofNat (n : Nat) : Text := ofString (toString n)

/-- Decimal digits of an integer, after a minus sign if it is negative. -/
def ofInt : Int → Text
  | .ofNat n => ofNat n
  | .negSucc n => CodePoint.ofChar '-' :: ofNat (n + 1)

/-- The digit for the last hexadecimal place of `n`, in lower case. -/
def hexDigit (n : Nat) : CodePoint :=
  if h : n % 16 < 10 then ⟨48 + n % 16, by omega⟩ else ⟨87 + n % 16, by omega⟩

/-- The last `width` hexadecimal places of `n`, in lower case. -/
def hex : (width : Nat) → (n : Nat) → Text
  | 0, _ => []
  | width + 1, n => hex width (n / 16) ++ [hexDigit n]

@[simp] theorem length_hex (width n : Nat) : (hex width n).length = width := by
  induction width generalizing n with
  | zero => rfl
  | succ width ih => simp [hex, ih]

def asciiLower (t : Text) : Text := t.map CodePoint.asciiLower

/-- Adds spaces on the right until the text has `width` code points. -/
def padRight (width : Nat) (t : Text) : Text :=
  t ++ List.replicate (width - t.length) (CodePoint.ofChar ' ')

end Text

end JuliaLookup
