import JuliaLookup.Number.Reader
import JuliaLookup.Value.Basic

/-!
# JSON

Values as JSON. The writer uses ASCII only, with a space after each comma and colon. The reader takes
any well-formed text, and besides it the three names that JSON lacks, for the infinities and for what
is not a number. Of entries with one name the last counts, at the place of the first. There are limits
on the digits of an integer and on how deep lists and objects nest.
-/

namespace JuliaLookup.Json

/-! ### Writing -/

/-- A code unit of UTF-16 as an escape. -/
def unitEscape (n : Nat) : Text := "\\u" ++ Text.hex 4 n

/-- One code point between quotation marks. Beyond the 16-bit range it takes a pair of units. -/
def writePoint (c : CodePoint) : Text :=
  if c = CodePoint.ofChar '"' then "\\\""
  else if c = CodePoint.ofChar '\\' then "\\\\"
  else if c.val = 0x0A then "\\n"
  else if c.val = 0x0D then "\\r"
  else if c.val = 0x09 then "\\t"
  else if c.val = 0x08 then "\\b"
  else if c.val = 0x0C then "\\f"
  else if 0x20 ≤ c.val ∧ c.val < 0x7F then [c]
  else if c.val < 0x10000 then unitEscape c.val
  else
    unitEscape (0xD800 + (c.val - 0x10000) / 0x400) ++
      unitEscape (0xDC00 + (c.val - 0x10000) % 0x400)

def writeText (t : Text) : Text := "\"" ++ t.flatMap writePoint ++ "\""

def writeNumber : Number → Text
  | .int n => Text.ofInt n
  | .float x => match Binary64.parts x with
    | .nan => "NaN"
    | .infinite negative => if negative then "-Infinity" else "Infinity"
    | .finite .. => Layout.exact x

mutual

def write : Value → Text
  | .null => "null"
  | .bool true => "true"
  | .bool false => "false"
  | .number n => writeNumber n
  | .str t => writeText t
  | .list items => "[" ++ Text.join ", " (writeItems items) ++ "]"
  | .object entries => "\x7b" ++ Text.join ", " (writeEntries entries) ++ "\x7d"

def writeItems : List Value → List Text
  | [] => []
  | v :: rest => write v :: writeItems rest

def writeEntries : List (Text × Value) → List Text
  | [] => []
  | (name, v) :: rest => (writeText name ++ ": " ++ write v) :: writeEntries rest

end

/-! ### Reading -/

/-- The kinds of value that hold others. -/
inductive Container where
  | list
  | object
  deriving DecidableEq, Repr

/-- What a text has too much of. -/
inductive Excess where
  /-- An integer has this many digits. -/
  | digits (count : Nat)
  /-- A container stands within too many others. -/
  | depth (innermost : Container)
  deriving DecidableEq, Repr

/-- Why a text cannot be read. -/
inductive Fault where
  | malformed
  | excess (e : Excess)
  deriving DecidableEq, Repr

/-- The most containers that stand within one another. -/
def maxDepth : Nat := 975

def Container.name : Container → Text
  | list => "array"
  | object => "object"

def Excess.message : Excess → Text
  | digits count =>
    "Exceeds the limit (" ++ Text.ofNat Number.maxDigits ++ " digits) for integer string conversion: " ++
      "value has " ++ Text.ofNat count ++ " digits; use sys.set_int_max_str_digits() to increase the limit"
  | depth innermost =>
    "maximum recursion depth exceeded while decoding a JSON " ++ innermost.name ++
      " from a unicode string"

/-- White space between tokens. -/
def isGap (c : CodePoint) : Bool := c.val == 0x20 || c.val == 0x09 || c.val == 0x0A || c.val == 0x0D

def skipGap (t : Text) : Text := t.dropWhile isGap

/-- The value of a hexadecimal digit. -/
def hexValue? (c : CodePoint) : Option Nat :=
  if c.isAsciiDigit then some (c.val - 48)
  else if 97 ≤ c.asciiLower.val ∧ c.asciiLower.val ≤ 102 then some (c.asciiLower.val - 87)
  else none

/-- The code point that a letter after a backslash stands for. -/
def escape? (c : CodePoint) : Option CodePoint :=
  if c = CodePoint.ofChar '"' ∨ c = CodePoint.ofChar '\\' ∨ c = CodePoint.ofChar '/' then some c
  else if c = CodePoint.ofChar 'b' then some 0x08
  else if c = CodePoint.ofChar 'f' then some 0x0C
  else if c = CodePoint.ofChar 'n' then some 0x0A
  else if c = CodePoint.ofChar 'r' then some 0x0D
  else if c = CodePoint.ofChar 't' then some 0x09
  else none

/-- Where a reader stands in a string: at a plain code point, after a backslash, or within a numeric
escape with digits still to come. -/
inductive Place where
  | plain
  | escape
  | unit (left : Nat) (value : Nat)

/-- The code point of two UTF-16 units, if they are a pair. -/
def pair? (high low : Nat) : Option Nat :=
  if 0xD800 ≤ high ∧ high ≤ 0xDBFF ∧ 0xDC00 ≤ low ∧ low ≤ 0xDFFF then
    some (0x10000 + (high - 0xD800) * 0x400 + (low - 0xDC00))
  else none

/-- Adds an escaped unit to the text read, which is kept in reverse. `joins` tells whether the unit
read last was escaped too: only then can the two be a pair. -/
def addUnit (joins : Bool) (unit : Nat) : Text → Text
  | [] => [Fin.ofNat 0x110000 unit]
  | last :: read =>
    match if joins then pair? last.val unit else none with
    | some n => Fin.ofNat 0x110000 n :: read
    | none => Fin.ofNat 0x110000 unit :: last :: read

/-- Reads a string up to its closing mark. `read` holds the text so far in reverse, and `joins`
whether its last code point is an escaped unit that a following one may join. -/
def readText : Place → (joins : Bool) → (read : Text) → Text → Except Fault (Text × Text)
  | _, _, _, [] => .error .malformed
  | .plain, joins, read, c :: rest =>
    if c = CodePoint.ofChar '"' then .ok (read.reverse, rest)
    else if c = CodePoint.ofChar '\\' then readText .escape joins read rest
    else if c.val < 0x20 then .error .malformed
    else readText .plain false (c :: read) rest
  | .escape, joins, read, c :: rest =>
    if c = CodePoint.ofChar 'u' then readText (.unit 3 0) joins read rest
    else match escape? c with
      | some d => readText .plain false (d :: read) rest
      | none => .error .malformed
  | .unit left value, joins, read, c :: rest =>
    match hexValue? c with
    | none => .error .malformed
    | some d =>
      if left = 0 then readText .plain true (addUnit joins (value * 16 + d) read) rest
      else readText (.unit (left - 1) (value * 16 + d)) joins read rest

/-- Reads a number: no leading zeros, and digits on both sides of a point. -/
def readNumber (t : Text) : Except Fault (Number × Text) :=
  let (negative, t) := match t with
    | c :: rest => if c = CodePoint.ofChar '-' then (true, rest) else (false, t)
    | [] => (false, [])
  let (integral, rest) := match t with
    | c :: rest =>
      if c = CodePoint.ofChar '0' then ([c], rest) else Number.takeDigits t
    | [] => ([], [])
  let (fraction, rest) := match rest with
    | c :: after =>
      let (digits, left) := Number.takeDigits after
      if c = CodePoint.ofChar '.' ∧ digits ≠ [] then (digits, left) else ([], rest)
    | [] => ([], [])
  let (exponent, rest) := match rest with
    | c :: after =>
      let (minus, after) := Number.takeSign after
      let (digits, left) := Number.takeDigits after
      if c.asciiLower = CodePoint.ofChar 'e' ∧ digits ≠ [] then (some (minus, digits), left)
      else (none, rest)
    | [] => (none, [])
  let whole := Number.ofDigits (integral ++ fraction)
  if integral.isEmpty then .error .malformed
  else match fraction, exponent with
  | [], none =>
    if Number.maxDigits < integral.length then .error (.excess (.digits integral.length))
    else .ok (.int (if negative then -(whole : Int) else whole), rest)
  | _, _ =>
    let e : Int := match exponent with
      | some (minus, digits) =>
        if minus then -(Number.ofDigits digits : Int) else Number.ofDigits digits
      | none => 0
    .ok (.float (Binary64.ofDecimal negative whole (e - fraction.length)), rest)

/-- The names that stand for a value. -/
def readName (t : Text) : Option (Value × Text) :=
  [(("null" : Text), Value.null), ("true", .bool true), ("false", .bool false),
    ("NaN", .number (.float (Float.ofBits 0x7FF8000000000000))),
    ("Infinity", .number (.float (Binary64.nearest false (2 ^ 1024) 1))),
    ("-Infinity", .number (.float (Binary64.nearest true (2 ^ 1024) 1)))].findSome?
      fun (name, v) => (Text.after? name t).map (v, ·)

mutual

/-- Reads a value that starts right away, within which containers may nest `depth` deep. The fuel bounds
the number of values read. -/
def readValue : (fuel : Nat) → (depth : Nat) → Text → Except Fault (Value × Text)
  | 0, _, _ => .error .malformed
  | _, _, [] => .error .malformed
  | fuel + 1, depth, c :: rest =>
    if c = CodePoint.ofChar '"' then
      (readText .plain false [] rest).map fun (t, rest) => (.str t, rest)
    else if c = CodePoint.ofChar '[' then
      match depth, skipGap rest with
      | 0, _ => .error (.excess (.depth .list))
      | _, [] => .error .malformed
      | depth + 1, d :: after =>
        if d = CodePoint.ofChar ']' then .ok (.list [], after)
        else (readItems fuel depth [] (d :: after)).map fun (items, rest) => (.list items, rest)
    else if c = CodePoint.ofChar '\x7b' then
      match depth, skipGap rest with
      | 0, _ => .error (.excess (.depth .object))
      | _, [] => .error .malformed
      | depth + 1, d :: after =>
        if d = CodePoint.ofChar '\x7d' then .ok (.object [], after)
        else (readEntries fuel depth [] (d :: after)).map fun (entries, rest) => (.object entries, rest)
    else match readName (c :: rest) with
      | some found => .ok found
      | none => (readNumber (c :: rest)).map fun (n, rest) => (.number n, rest)

/-- Reads the items of a list up to its closing bracket, after the items already read. -/
def readItems : (fuel : Nat) → (depth : Nat) → (read : List Value) → Text →
    Except Fault (List Value × Text)
  | 0, _, _, _ => .error .malformed
  | fuel + 1, depth, read, t => do
    let (v, rest) ← readValue fuel depth t
    match skipGap rest with
    | [] => throw .malformed
    | c :: rest =>
      if c = CodePoint.ofChar ',' then readItems fuel depth (v :: read) (skipGap rest)
      else if c = CodePoint.ofChar ']' then return ((v :: read).reverse, rest)
      else throw .malformed

/-- Reads the entries of an object up to its closing brace, after the entries already read. -/
def readEntries : (fuel : Nat) → (depth : Nat) → (read : Entries) → Text →
    Except Fault (Entries × Text)
  | 0, _, _, _ => .error .malformed
  | _, _, _, [] => .error .malformed
  | fuel + 1, depth, read, c :: rest =>
    if c ≠ CodePoint.ofChar '"' then .error .malformed
    else do
      let (name, rest) ← readText .plain false [] rest
      match skipGap rest with
      | [] => throw .malformed
      | d :: rest =>
        if d ≠ CodePoint.ofChar ':' then throw .malformed
        else
          let (v, rest) ← readValue fuel depth (skipGap rest)
          match skipGap rest with
          | [] => throw .malformed
          | e :: rest =>
            if e = CodePoint.ofChar ',' then readEntries fuel depth (read.insert name v) (skipGap rest)
            else if e = CodePoint.ofChar '\x7d' then return (read.insert name v, rest)
            else throw .malformed

end

/-- The value that a text writes, or why it writes none. -/
def read (t : Text) : Except Fault Value := do
  let (v, rest) ← readValue (t.length + 1) maxDepth (skipGap t)
  if (skipGap rest).isEmpty then return v else throw .malformed

end JuliaLookup.Json
