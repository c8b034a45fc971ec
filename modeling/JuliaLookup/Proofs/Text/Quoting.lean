import JuliaLookup.Proofs.Text.Printing

/-!
# Reading quoted texts

A quoted text is printable, and it tells which text was quoted. Its code points are read back one by one:
after a backslash the next one says how many hexadecimal digits follow, or else is meant as a line feed, a
return, a tab or itself. So the choice of mark does not matter to what is read.
Main statements: `isPrintable_quoted` and `quoted_injective`.
-/

namespace JuliaLookup.Text

variable {mark c : CodePoint} {s t rest : Text}

/-- The marks that a quoted text may be put between. -/
def IsMark (mark : CodePoint) : Prop := mark = CodePoint.ofChar '\'' ∨ mark = CodePoint.ofChar '"'

theorem isMark_quoteMark (t : Text) : IsMark t.quoteMark := by
  unfold quoteMark
  split
  · exact .inr rfl
  · exact .inl rfl

/-! ### Printable -/

theorem isPrintable_numericEscape (c : CodePoint) : (numericEscape c).IsPrintable := by
  unfold numericEscape
  split_ifs
  · exact isPrintable_fixed_append (by decide) (isPrintable_hex 2 c.val)
  · exact isPrintable_fixed_append (by decide) (isPrintable_hex 4 c.val)
  · exact isPrintable_fixed_append (by decide) (isPrintable_hex 8 c.val)

theorem isPrintable_of_isMark (h : IsMark mark) : mark.isPrintable = true := by
  rcases h with rfl | rfl
  · exact CodePoint.isPrintable_of_ascii (by decide) (by decide)
  · exact CodePoint.isPrintable_of_ascii (by decide) (by decide)

theorem isPrintable_quotePoint (hmark : IsMark mark) (c : CodePoint) :
    (quotePoint mark c).IsPrintable := by
  have hbackslash : (CodePoint.ofChar '\\').isPrintable = true :=
    CodePoint.isPrintable_of_ascii (by decide) (by decide)
  unfold quotePoint
  split_ifs with hself hfeed hreturn htab hprintable
  · have hc : c.isPrintable = true := by
      rcases hself with rfl | rfl
      · exact isPrintable_of_isMark hmark
      · exact hbackslash
    simp [hbackslash, hc]
  · exact isPrintable_of_all (by decide)
  · exact isPrintable_of_all (by decide)
  · exact isPrintable_of_all (by decide)
  · simpa using hprintable
  · exact isPrintable_numericEscape c

/-- Whatever a text holds, quoted it is printable. -/
theorem isPrintable_quoted (t : Text) : t.quoted.IsPrintable := by
  have hmark := isMark_quoteMark t
  have hpoint := isPrintable_of_isMark hmark
  have hbody : IsPrintable (t.flatMap (quotePoint t.quoteMark)) := by
    intro d hd
    obtain ⟨c, -, hd⟩ := List.mem_flatMap.mp hd
    exact isPrintable_quotePoint hmark c d hd
  simp [quoted, hpoint, hbody]

/-! ### Reading back -/

/-- The value of a hexadecimal digit in lower case. -/
def digitValue (c : CodePoint) : Nat := if c.val < 58 then c.val - 48 else c.val - 87

/-- The number with these hexadecimal digits. -/
def ofHex (t : Text) : Nat := t.foldl (fun n c => 16 * n + digitValue c) 0

theorem digitValue_hexDigit (n : Nat) : digitValue (hexDigit n) = n % 16 := by
  unfold digitValue hexDigit
  split_ifs with h
  all_goals simp_all
  all_goals omega

theorem ofHex_hex_zero (n : Nat) : ofHex (hex 0 n) = 0 := rfl

/-- The last digit is read on top of those before it. -/
theorem ofHex_hex_succ (width n : Nat) :
    ofHex (hex (width + 1) n) = 16 * ofHex (hex width (n / 16)) + n % 16 := by
  rw [hex, ofHex, List.foldl_append, List.foldl_cons, List.foldl_nil, digitValue_hexDigit]
  rfl

/-- The number of digits of a numeric escape that begins with a letter, if one does. -/
def escapeWidth? (c : CodePoint) : Option Nat :=
  if c = CodePoint.ofChar 'x' then some 2
  else if c = CodePoint.ofChar 'u' then some 4
  else if c = CodePoint.ofChar 'U' then some 8
  else none

/-- What a code point after a backslash means, if no digits follow it. -/
def escapedValue (c : CodePoint) : Nat :=
  if c = CodePoint.ofChar 'n' then 0x0A
  else if c = CodePoint.ofChar 'r' then 0x0D
  else if c = CodePoint.ofChar 't' then 0x09
  else c.val

/-- Reads what follows a backslash. -/
def readEscape : Text → Option (Nat × Text)
  | [] => none
  | c :: rest =>
    match escapeWidth? c with
    | some width => some (ofHex (rest.take width), rest.drop width)
    | none => some (escapedValue c, rest)

/-- Reads one code point of a quoted text, as its number. -/
def readPoint : Text → Option (Nat × Text)
  | [] => none
  | c :: rest => if c = CodePoint.ofChar '\\' then readEscape rest else some (c.val, rest)

theorem readEscape_hex {letter : CodePoint} {width n : Nat} (hletter : escapeWidth? letter = some width)
    (hn : ofHex (hex width n) = n) : readEscape (letter :: (hex width n ++ rest)) = some (n, rest) := by
  have hlength := length_hex width n
  have htake : (hex width n ++ rest).take width = hex width n := List.take_left' hlength
  have hdrop : (hex width n ++ rest).drop width = rest := List.drop_left' hlength
  rw [readEscape, hletter]
  simp only [htake, hdrop, hn]

/-- Each of the three lengths is chosen for numbers that it holds. -/
theorem readPoint_numericEscape (c : CodePoint) :
    readPoint (numericEscape c ++ rest) = some (c.val, rest) := by
  have hmax := c.isLt
  have hx : escapeWidth? (CodePoint.ofChar 'x') = some 2 := rfl
  have hu : escapeWidth? (CodePoint.ofChar 'u') = some 4 := rfl
  have hU : escapeWidth? (CodePoint.ofChar 'U') = some 8 := rfl
  unfold numericEscape
  split_ifs with hbyte hunit
  · exact readEscape_hex hx (by simp only [ofHex_hex_succ, ofHex_hex_zero]; omega)
  · exact readEscape_hex hu (by simp only [ofHex_hex_succ, ofHex_hex_zero]; omega)
  · exact readEscape_hex hU (by simp only [ofHex_hex_succ, ofHex_hex_zero]; omega)

/-- One quoted code point is read back whatever stands behind it. -/
theorem readPoint_quotePoint (hmark : IsMark mark) (c : CodePoint) :
    readPoint (quotePoint mark c ++ rest) = some (c.val, rest) := by
  unfold quotePoint
  split_ifs with hself hfeed hreturn htab hprintable
  · have hplain : escapeWidth? c = none ∧ escapedValue c = c.val := by
      rcases hself with rfl | rfl
      · rcases hmark with rfl | rfl <;> decide
      · decide
    simp [readPoint, readEscape, hplain]
  · subst hfeed
    rfl
  · subst hreturn
    rfl
  · subst htab
    rfl
  · rw [not_or] at hself
    simp [readPoint, hself.2]
  · exact readPoint_numericEscape c

/-- Between marks of the same kind, no two texts are quoted alike. -/
theorem flatMap_quotePoint_injective (hmark : IsMark mark)
    (h : s.flatMap (quotePoint mark) = t.flatMap (quotePoint mark)) : s = t := by
  have hcons (c : CodePoint) (u : Text) : readPoint ((c :: u).flatMap (quotePoint mark)) =
      some (c.val, u.flatMap (quotePoint mark)) := by
    rw [List.flatMap_cons, readPoint_quotePoint hmark]
  have hnil : readPoint (List.flatMap (quotePoint mark) []) = none := rfl
  induction s generalizing t with
  | nil =>
    cases t with
    | nil => rfl
    | cons d t =>
      have hread := hcons d t
      rw [← h, hnil] at hread
      cases hread
  | cons c s ih =>
    have hread := hcons c s
    cases t with
    | nil =>
      rw [h, hnil] at hread
      cases hread
    | cons d t =>
      rw [h, hcons d t] at hread
      obtain ⟨hval, hrest⟩ := Prod.mk.inj (Option.some.inj hread)
      rw [ih hrest.symm, Fin.ext hval]

/-- No two texts are quoted alike. -/
theorem quoted_injective : Function.Injective quoted := by
  intro s t h
  obtain ⟨hmark, hbody⟩ := List.cons.inj h
  rw [← hmark] at hbody
  exact flatMap_quotePoint_injective (isMark_quoteMark s) (List.append_cancel_right hbody)

end JuliaLookup.Text
