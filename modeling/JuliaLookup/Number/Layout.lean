import JuliaLookup.Text.Basic
import JuliaLookup.Number.Shortest

/-!
# How decimals are written

One record fixes the spelling of a float: when it is written without an exponent, and whether a whole
number keeps a point. There are two spellings: `exact`, which reads back as the same float, and
`general`, six significant digits for a sentence.
-/

namespace JuliaLookup

/-- A spelling of decimals. The exponent meant is that of the leading digit. -/
structure Layout where
  /-- The exponents from this one on may be written positionally. -/
  plainFrom : Int
  /-- The exponents from this one on are written out. -/
  plainBelow : Int
  /-- Whether a whole number written positionally ends in `.0`. -/
  keepsPoint : Bool

namespace Layout

/-- An exponent has a sign and at least two digits. -/
def writeExponent (e : Int) : Text :=
  let digits := Text.ofNat e.natAbs
  (if e < 0 then "e-" else "e+") ++ List.replicate (2 - digits.length) (CodePoint.ofChar '0') ++
    digits

/-- Digits with a point after the first `before` of them, if any are left. -/
def point (before : Nat) (digits : Text) : Text :=
  if digits.length ≤ before then digits
  else digits.take before ++ "." ++ digits.drop before

/-- The decimal without its sign. -/
def writeMagnitude (l : Layout) (x : Decimal) : Text :=
  let x := x.trimZeros 20
  let digits := Text.ofNat x.digits
  let leading : Int := digits.length - 1 + x.exponent
  if l.plainFrom ≤ leading ∧ leading < l.plainBelow then
    if 0 ≤ x.exponent then
      digits ++ List.replicate x.exponent.toNat (CodePoint.ofChar '0') ++
        (if l.keepsPoint then ".0" else "" : String)
    else if 0 ≤ leading then point (leading.toNat + 1) digits
    else "0." ++ List.replicate (-leading - 1).toNat (CodePoint.ofChar '0') ++ digits
  else point 1 digits ++ writeExponent leading

/-- A float, its digits taken by `round`. -/
def write (l : Layout) (round : Nat → Int → Decimal) (x : Float) : Text :=
  match Binary64.parts x with
  | .nan => "nan"
  | .infinite negative => if negative then "-inf" else "inf"
  | .finite negative mantissa exponent =>
    (if negative then "-" else "" : String) ++ l.writeMagnitude (round mantissa exponent)

/-- Fewest digits, positional from 0.0001 up to 16 digits, whole numbers with `.0`. -/
def exact (x : Float) : Text :=
  write { plainFrom := -4, plainBelow := 16, keepsPoint := true } Decimal.shortest x

/-- Six significant digits, positional from 0.0001 up to six digits. -/
def general (x : Float) : Text :=
  write { plainFrom := -4, plainBelow := 6, keepsPoint := false } (Decimal.toPlaces 6) x

end Layout

end JuliaLookup
