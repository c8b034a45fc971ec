/-!
# 64-bit floats as exact numbers

A finite float is a natural number times a power of two. `parts` takes a float apart, and `nearest`
makes the float nearest to a quotient of natural numbers, a tie going to the even neighbour. Both
work on the bits, so nothing is rounded on the way.
-/

namespace JuliaLookup

/-- Powers of integers, by repeated multiplication. -/
@[default_instance high]
instance intPow : Pow Int Nat := instPowNat

/-- Powers of natural numbers, by repeated multiplication. -/
@[default_instance high]
instance natPow : Pow Nat Nat := instPowNat

namespace Binary64

/-- A float as an exact number. Zeros keep their sign. -/
inductive Parts where
  | nan
  | infinite (negative : Bool)
  | finite (negative : Bool) (mantissa : Nat) (exponent : Int)
  deriving DecidableEq, Repr

/-- The least exponent, of the subnormal numbers. -/
def leastExponent : Int := -1074

/-- The bits of positive infinity: eleven ones and no fraction. -/
def infinityBits : Nat := 2047 * 2 ^ 52

def parts (x : Float) : Parts :=
  let bits := x.toBits.toNat
  let negative : Bool := 2 ^ 63 ≤ bits
  let field : Nat := bits / 2 ^ 52 % 2 ^ 11
  let fraction : Nat := bits % 2 ^ 52
  if field = 2047 then if fraction = 0 then .infinite negative else .nan
  else if field = 0 then .finite negative fraction leastExponent
  else .finite negative (2 ^ 52 + fraction) ((field : Int) - 1075)

/-- The natural number nearest to `num / den`; a half goes to the even neighbour. -/
def roundHalfEven (num den : Nat) : Nat :=
  let low := num / den
  let twice := 2 * (num % den)
  if twice < den then low
  else if den < twice then low + 1
  else low + low % 2

/-- The quotient `num / (den * base ^ exponent)`, as a pair of natural numbers. -/
def rescale (base num den : Nat) (exponent : Int) : Nat × Nat :=
  (num * base ^ (-exponent).toNat, den * base ^ exponent.toNat)

/-- The exponent of the last binary place that a float keeps of `num / den`. -/
def lastPlace (num den : Nat) : Int :=
  let guess : Int := (num.log2 : Int) - den.log2 - 52
  let (n, d) := rescale 2 num den guess
  max leastExponent (if n < 2 ^ 52 * d then guess - 1 else guess)

/-- The float nearest to `num / den`, with the sign given. What lies beyond the largest float is
infinite. -/
def nearest (negative : Bool) (num den : Nat) : Float :=
  let magnitude :=
    if num = 0 then 0
    else
      let place := lastPlace num den
      let (n, d) := rescale 2 num den place
      min infinityBits ((place - leastExponent).toNat * 2 ^ 52 + roundHalfEven n d)
  Float.ofBits (magnitude + if negative then 2 ^ 63 else 0).toUInt64

/-- The float nearest to `digits * 10 ^ exponent`. Exponents far outside the range of floats are
settled without computing the power. -/
def ofDecimal (negative : Bool) (digits : Nat) (exponent : Int) : Float :=
  if digits = 0 ∨ exponent < -1100 - digits.log2 then nearest negative 0 1
  else if 400 < exponent then nearest negative (2 ^ 1024) 1
  else
    let (n, d) := rescale 10 digits 1 (-exponent)
    nearest negative n d

end Binary64

end JuliaLookup
