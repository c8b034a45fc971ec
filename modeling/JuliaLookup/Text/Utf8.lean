import JuliaLookup.Text.Basic

/-!
# UTF-8

The bytes of a text, and the text of any bytes. Reading never fails: each maximal part of the bytes
that could have begun a well-formed sequence, but does not, stands for one U+FFFD.
-/

namespace JuliaLookup.Utf8

/-- The bytes of a code point. Surrogates get the three bytes that their number would have. -/
def encodePoint (c : CodePoint) : List UInt8 :=
  let n := c.val
  if n < 0x80 then [n.toUInt8]
  else if n < 0x800 then [(0xC0 + n / 64).toUInt8, (0x80 + n % 64).toUInt8]
  else if n < 0x10000 then
    [(0xE0 + n / 4096).toUInt8, (0x80 + n / 64 % 64).toUInt8, (0x80 + n % 64).toUInt8]
  else
    [(0xF0 + n / 262144).toUInt8, (0x80 + n / 4096 % 64).toUInt8, (0x80 + n / 64 % 64).toUInt8,
     (0x80 + n % 64).toUInt8]

def encode (t : Text) : List UInt8 := t.flatMap encodePoint

/-- What a first byte announces: how many bytes follow, the bits that it carries, and the range of
the byte that comes next. The ranges keep out overlong forms, surrogates and numbers past U+10FFFF. -/
structure Lead where
  following : Nat
  bits : Nat
  low : Nat := 0x80
  high : Nat := 0xBF

/-- The sequence that a byte of 0x80 or more can begin, if any. -/
def lead? (b : Nat) : Option Lead :=
  if 0xC2 ≤ b ∧ b ≤ 0xDF then some { following := 1, bits := b - 0xC0 }
  else if b = 0xE0 then some { following := 2, bits := 0, low := 0xA0 }
  else if b = 0xED then some { following := 2, bits := 0xD, high := 0x9F }
  else if 0xE1 ≤ b ∧ b ≤ 0xEF then some { following := 2, bits := b - 0xE0 }
  else if b = 0xF0 then some { following := 3, bits := 0, low := 0x90 }
  else if b = 0xF4 then some { following := 3, bits := 4, high := 0x8F }
  else if 0xF1 ≤ b ∧ b ≤ 0xF3 then some { following := 3, bits := b - 0xF0 }
  else none

/-- The replacement character. -/
def replacement : CodePoint := 0xFFFD

/-- The code point with a number, or the replacement character if there is none. -/
def point (n : Nat) : CodePoint := if h : n < 0x110000 then ⟨n, h⟩ else replacement

/-- What a byte means at the start of a sequence: the text that it completes and the sequence that it
leaves open. -/
def first (n : Nat) : Text × Option Lead :=
  if n < 0x80 then ([point n], none)
  else match lead? n with
    | some p => ([], some p)
    | none => ([replacement], none)

/-- What a byte means after the open sequence, if there is one. A byte that does not continue it ends
it, and then starts afresh. -/
def step : Option Lead → Nat → Text × Option Lead
  | none, n => first n
  | some p, n =>
    if p.low ≤ n ∧ n ≤ p.high then
      let bits := p.bits * 64 + (n - 0x80)
      if p.following ≤ 1 then ([point bits], none)
      else ([], some { following := p.following - 1, bits })
    else (replacement :: (first n).1, (first n).2)

/-- Reads bytes after an open sequence, which the end of the bytes leaves unfinished. -/
def decodeFrom : Option Lead → List UInt8 → Text
  | none, [] => []
  | some _, [] => [replacement]
  | pending, b :: rest =>
    (step pending b.toNat).1 ++ decodeFrom (step pending b.toNat).2 rest

/-- The text of the bytes, ill-formed parts replaced. -/
def decode (bytes : List UInt8) : Text := decodeFrom none bytes

end JuliaLookup.Utf8
