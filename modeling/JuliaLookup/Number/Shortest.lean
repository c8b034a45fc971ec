import JuliaLookup.Number.Binary64

/-!
# Decimal digits of a float

`shortest` gives the fewest decimal digits that read back as the same float and, among those, the
ones nearest to it; `toPlaces` gives a fixed number of significant digits. Both compare exact
quotients. A tie goes to the even digit.
-/

namespace JuliaLookup

/-- The number `digits * 10 ^ exponent`. -/
structure Decimal where
  digits : Nat
  exponent : Int
  deriving DecidableEq, Repr

namespace Decimal

/-- The value `mantissa * 2 ^ exponent` as a quotient. -/
def quotient (mantissa : Nat) (exponent : Int) : Nat × Nat :=
  Binary64.rescale 2 mantissa 1 (-exponent)

/-- Whether `digits * 10 ^ place` is above `num / den`. -/
def exceeds (digits : Nat) (place : Int) (num den : Nat) : Bool :=
  let (n, d) := Binary64.rescale 10 num den place
  n < digits * d

/-- The least `p` from `start` on with `num / den < 10 ^ p`, looking at `tries` of them. -/
def raise (num den : Nat) : (tries : Nat) → (start : Int) → Int
  | 0, p => p
  | tries + 1, p => if exceeds 1 p num den then p else raise num den tries (p + 1)

/-- The number of digits before the decimal point of `num / den`, negative for leading zeros after
it. -/
def magnitude (num den : Nat) : Int :=
  raise num den 6 (((num.log2 : Int) - den.log2 - 1) * 30103 / 100000 - 1)

/-- The numbers that round to the float `mantissa * 2 ^ exponent`, as quotients of one denominator;
the ends belong to them when the mantissa is even. -/
structure Rounding where
  low : Nat
  value : Nat
  high : Nat
  den : Nat
  closed : Bool

/-- Below a power of two the floats are twice as dense, so the lower half-gap is half as wide. -/
def Rounding.of (mantissa : Nat) (exponent : Int) : Rounding :=
  let (unit, den) := quotient 1 (exponent - 2)
  let below := if mantissa = 2 ^ 52 ∧ Binary64.leastExponent < exponent then 1 else 2
  { low := (4 * mantissa - below) * unit
    value := 4 * mantissa * unit
    high := (4 * mantissa + 2) * unit
    den
    closed := mantissa % 2 == 0 }

/-- Whether `digits * 10 ^ place` rounds to the float. -/
def Rounding.takes (r : Rounding) (digits : Nat) (place : Int) : Bool :=
  let (lown, d) := Binary64.rescale 10 r.low r.den place
  let (highn, _) := Binary64.rescale 10 r.high r.den place
  let x := digits * d
  (lown < x && x < highn) || (r.closed && (lown == x || x == highn))

/-- The decimal with its last digit at `place` that rounds to the float, if there is one: of the two
neighbours of the value the nearer. -/
def Rounding.at? (r : Rounding) (place : Int) : Option Decimal :=
  let (n, d) := Binary64.rescale 10 r.value r.den place
  let low := n / d
  match r.takes low place, r.takes (low + 1) place with
  | true, true => some ⟨Binary64.roundHalfEven n d, place⟩
  | true, false => some ⟨low, place⟩
  | false, true => some ⟨low + 1, place⟩
  | false, false => none

/-- The first place, from `place` down, that has a decimal for the float; the last of `tries` places
rounds the value. -/
def Rounding.search (r : Rounding) : (tries : Nat) → (place : Int) → Decimal
  | 0, place =>
    let (n, d) := Binary64.rescale 10 r.value r.den place
    ⟨Binary64.roundHalfEven n d, place⟩
  | tries + 1, place => (r.at? place).getD (r.search tries (place - 1))

/-- The fewest digits that read back as `mantissa * 2 ^ exponent`. -/
def shortest (mantissa : Nat) (exponent : Int) : Decimal :=
  if mantissa = 0 then ⟨0, 0⟩
  else
    let r := Rounding.of mantissa exponent
    r.search 17 (magnitude r.value r.den - 1)

/-- The `count` leading digits of `mantissa * 2 ^ exponent`, rounded. -/
def toPlaces (count : Nat) (mantissa : Nat) (exponent : Int) : Decimal :=
  if mantissa = 0 then ⟨0, 0⟩
  else
    let (num, den) := quotient mantissa exponent
    let place := magnitude num den - count
    let (n, d) := Binary64.rescale 10 num den place
    ⟨Binary64.roundHalfEven n d, place⟩

/-- Drops up to `tries` zeros at the end of the digits. -/
def trimZeros : (tries : Nat) → Decimal → Decimal
  | 0, x => x
  | tries + 1, x =>
    if x.digits ≠ 0 ∧ x.digits % 10 = 0 then trimZeros tries ⟨x.digits / 10, x.exponent + 1⟩ else x

end Decimal

end JuliaLookup
