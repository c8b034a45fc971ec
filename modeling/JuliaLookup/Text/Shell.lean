import JuliaLookup.Text.Search

/-!
# Shell words

Words as a POSIX shell writes and reads them. Writing puts every word that holds anything but safe
characters between single marks; reading splits a line into words by the shell's quoting rules, and
refuses a line in which the shell would still expand something.
-/

namespace JuliaLookup.Shell

/-- ASCII letters, digits and the marks that mean nothing to a shell. -/
def isSafe (c : CodePoint) : Bool :=
  (48 ≤ c.val && c.val ≤ 57) || (65 ≤ c.val && c.val ≤ 90) || (97 ≤ c.val && c.val ≤ 122) ||
    ("_@%+=:,./-" : Text).contains c

def mark : CodePoint := CodePoint.ofChar '\''

/-- One code point between single marks. A single mark has to leave them: it is put between double
ones. -/
def quotePoint (c : CodePoint) : Text := if c = mark then "'\"'\"'" else [c]

/-- The word as a shell reads it back. -/
def quote (word : Text) : Text :=
  if word.isEmpty then "''"
  else if word.all isSafe then word
  else mark :: (word.flatMap quotePoint ++ [mark])

/-- The words on one line. -/
def line (words : List Text) : Text := Text.join " " (words.map quote)

/-! ### Reading -/

/-- Where a reader stands in a line. -/
inductive Place where
  | gap
  | bare
  | single
  | double
  | escaped
  deriving DecidableEq, Repr

/-- What separates words outside quotation marks. -/
def isSeparator (c : CodePoint) : Bool := c.val == 0x20 || c.val == 0x09

/-- What a shell would act on outside quotation marks: operators, expansions, patterns, comments and
the end of the command. -/
def isActive (c : CodePoint) : Bool := ("|&;<>()$`*?[]#~!{}\n" : Text).contains c

/-- What a shell would act on between double marks. -/
def isActiveInDouble (c : CodePoint) : Bool := ("$`\\!" : Text).contains c

/-- Reads a line from a place in it, with the word begun there. -/
def wordsFrom : Place → (word : Text) → Text → Option (List Text)
  | .gap, _, [] => some []
  | .bare, word, [] => some [word]
  | .single, _, [] => none
  | .double, _, [] => none
  | .escaped, _, [] => none
  | .single, word, c :: rest =>
    if c = mark then wordsFrom .bare word rest else wordsFrom .single (word ++ [c]) rest
  | .double, word, c :: rest =>
    if c = CodePoint.ofChar '"' then wordsFrom .bare word rest
    else if isActiveInDouble c then none
    else wordsFrom .double (word ++ [c]) rest
  | .escaped, word, c :: rest =>
    -- a backslash at the end of a line joins it with the next one
    if c = CodePoint.ofChar '\n' then none else wordsFrom .bare (word ++ [c]) rest
  | place, word, c :: rest =>
    if isSeparator c then
      if place = .gap then wordsFrom .gap [] rest else (wordsFrom .gap [] rest).map (word :: ·)
    else if c = mark then wordsFrom .single word rest
    else if c = CodePoint.ofChar '"' then wordsFrom .double word rest
    else if c = CodePoint.ofChar '\\' then wordsFrom .escaped word rest
    else if isActive c then none
    else wordsFrom .bare (word ++ [c]) rest

/-- The words of a line, unless a mark is left open or the shell would expand something in it. -/
def words? (t : Text) : Option (List Text) := wordsFrom .gap [] t

end JuliaLookup.Shell
