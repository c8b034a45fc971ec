import JuliaLookup.Number.Layout

/-!
# Numbers

A number is an integer of any size or a 64-bit float, and it keeps which of the two it was written
as. Order is exact across the two kinds. A difference of integers is an integer; any other is a
difference of floats.
-/

namespace JuliaLookup

inductive Number where
  | int (n : Int)
  | float (x : Float)

namespace Number

instance : Inhabited Number := ⟨.int 0⟩

/-- The float nearest to an integer. -/
def floatOfInt (n : Int) : Float := Binary64.nearest (n < 0) n.natAbs 1

def toFloat : Number → Float
  | int n => floatOfInt n
  | float x => x

/-- The exact value. -/
def parts : Number → Binary64.Parts
  | int n => .finite (n < 0) n.natAbs 0
  | float x => Binary64.parts x

/-- `mantissa * 2 ^ exponent` with its sign, in units of `2 ^ unit`. -/
def units (unit : Int) (negative : Bool) (mantissa : Nat) (exponent : Int) : Int :=
  let n : Int := mantissa * 2 ^ (exponent - unit).toNat
  if negative then -n else n

/-- Strict order of exact values. Nothing is below or above what is not a number. -/
def partsBelow : Binary64.Parts → Binary64.Parts → Bool
  | .nan, _ => false
  | _, .nan => false
  | .infinite true, .infinite true => false
  | .infinite true, _ => true
  | _, .infinite true => false
  | .infinite false, _ => false
  | _, .infinite false => true
  | .finite s m e, .finite s' m' e' =>
    units (min e e') s m e < units (min e e') s' m' e'

/-- Whether a number is strictly below another, compared exactly. -/
def below (a b : Number) : Bool := partsBelow a.parts b.parts

instance : LT Number := ⟨fun a b => a.below b = true⟩

instance (a b : Number) : Decidable (a < b) := inferInstanceAs (Decidable (a.below b = true))

def sub : Number → Number → Number
  | int m, int n => int (m - n)
  | a, b => float (a.toFloat - b.toFloat)

instance : Sub Number := ⟨sub⟩

def add : Number → Number → Number
  | int m, int n => int (m + n)
  | a, b => float (a.toFloat + b.toFloat)

instance : Add Number := ⟨add⟩

/-- The digits of an integer, or the fewest of a float. -/
def text : Number → Text
  | int n => Text.ofInt n
  | float x => Layout.exact x

/-- Six significant digits, whichever kind of number it is. -/
def general (n : Number) : Text := Layout.general n.toFloat

/-- Whether the number is zero. -/
def isZero : Number → Bool
  | int n => n == 0
  | float x => match Binary64.parts x with
    | .finite _ mantissa _ => mantissa == 0
    | _ => false

/-- The integer that the number is, if it is whole. -/
def whole? : Number → Option Int
  | int n => some n
  | float x => match Binary64.parts x with
    | .finite negative mantissa exponent =>
      let n := mantissa * 2 ^ exponent.toNat / 2 ^ (-exponent).toNat
      if n * 2 ^ (-exponent).toNat = mantissa * 2 ^ exponent.toNat then
        some (if negative then -(n : Int) else n)
      else none
    | _ => none

/-- Whether the number is neither infinite nor not a number. -/
def isFinite (n : Number) : Bool :=
  match n.parts with
  | .finite .. => true
  | _ => false

/-- Whether the number has a float near it: no integer beyond all floats has. -/
def fitsFloat : Number → Bool
  | int n => (float (floatOfInt n)).isFinite
  | float _ => true

/-- Whether the number is the float that is not a number. -/
def isNaN (n : Number) : Bool := n.parts == .nan

end Number

end JuliaLookup
