import JuliaLookup.Text.Word

/-!
# Classes apart

Letters, decimal digits and other numerals have no code point in common. Whether two tables are apart is
decided in one sweep over both from below. So the code points that a word may start with are the letters,
the numerals other than the decimal digits, and the underscore.
-/

namespace JuliaLookup

namespace RangeTable

variable {first second table : RangeTable} {bound low n : Nat}

/-- No range of one table meets a range of the other. The ranges of the second that end before a range of
the first begins are passed over for good. -/
def apart : (first second : RangeTable) → Bool
  | [], _ => true
  | r :: first, second =>
    let later := second.dropWhile fun s => s.2 < r.1
    later.head?.all (r.2 < ·.1) && apart first later

theorem isSorted_mono {bound' : Nat} (h : table.isSorted bound = true) (hle : bound' ≤ bound) :
    table.isSorted bound' = true := by
  cases table with
  | nil => rfl
  | cons r rest =>
    simp only [isSorted, Bool.and_eq_true, decide_eq_true_eq] at h ⊢
    exact ⟨⟨by omega, h.1.2⟩, h.2⟩

theorem isSorted_dropWhile {p : Nat × Nat → Bool} (h : table.isSorted bound = true) :
    RangeTable.isSorted (table.dropWhile p) bound = true := by
  induction table with
  | nil => rfl
  | cons r rest ih =>
    rw [List.dropWhile_cons]
    split
    · simp only [isSorted, Bool.and_eq_true, decide_eq_true_eq] at h
      exact ih (isSorted_mono h.2 (by omega))
    · exact h

/-- Ranges that end below `low` hold nothing from there on. -/
theorem holds_dropWhile (h : table.isSorted bound = true) (hn : low ≤ n) :
    RangeTable.holds (table.dropWhile fun s => s.2 < low) n = table.holds n := by
  induction table generalizing bound with
  | nil => rfl
  | cons r rest ih =>
    simp only [isSorted, Bool.and_eq_true, decide_eq_true_eq] at h
    rw [List.dropWhile_cons]
    split
    · next hbelow =>
      have hbelow : r.2 < low := of_decide_eq_true hbelow
      have hpast : ¬ n ≤ r.2 := by omega
      rw [ih h.2, holds, if_neg (by omega), decide_eq_false hpast, Bool.false_or]
    · rfl

theorem holds_eq_false_of_apart (h : apart first second = true)
    (hsorted : second.isSorted bound = true) (hn : first.holds n = true) : second.holds n = false := by
  induction first generalizing second with
  | nil => cases hn
  | cons r rest ih =>
    rw [apart, Bool.and_eq_true] at h
    obtain ⟨hhead, hrest⟩ := h
    have hlater := isSorted_dropWhile (p := fun s => s.2 < r.1) hsorted
    rw [holds] at hn
    split at hn
    · cases hn
    · next hlow =>
      rw [← holds_dropWhile hsorted (Nat.le_of_not_lt hlow)]
      rw [Bool.or_eq_true, decide_eq_true_eq] at hn
      rcases hn with hhigh | hn
      · -- `n` is in the range `r`, and what is left of the second table begins above it
        generalize second.dropWhile (fun s => s.2 < r.1) = later at hhead ⊢
        cases later with
        | nil => rfl
        | cons s others =>
          have habove : r.2 < s.1 := of_decide_eq_true hhead
          rw [holds, if_pos (by omega)]
      · exact ih hrest hlater hn

end RangeTable

theorem apart_classes : letters.apart decimalDigits = true ∧ letters.apart otherNumerals = true ∧
    decimalDigits.apart otherNumerals = true := by decide +kernel

namespace CodePoint

variable {c : CodePoint}

theorem isDecimalDigit_of_isLetter (h : c.isLetter = true) : c.isDecimalDigit = false :=
  RangeTable.holds_eq_false_of_apart apart_classes.1 isSorted_decimalDigits h

theorem isOtherNumeral_of_isLetter (h : c.isLetter = true) : c.isOtherNumeral = false :=
  RangeTable.holds_eq_false_of_apart apart_classes.2.1 isSorted_otherNumerals h

theorem isOtherNumeral_of_isDecimalDigit (h : c.isDecimalDigit = true) : c.isOtherNumeral = false :=
  RangeTable.holds_eq_false_of_apart apart_classes.2.2 isSorted_otherNumerals h

theorem isWord_iff : c.isWord = true ↔
    c.isLetter = true ∨ c.isDecimalDigit = true ∨ c.isOtherNumeral = true ∨ c = ofChar '_' := by
  simp only [isWord, Bool.or_eq_true, beq_iff_eq, or_assoc]

/-- A word starts with a letter, a numeral that is no decimal digit, or an underscore. -/
theorem isWordStart_iff : c.isWordStart = true ↔
    c.isLetter = true ∨ c.isOtherNumeral = true ∨ c = ofChar '_' := by
  have hunderscore : (ofChar '_').isDecimalDigit = false := by decide
  rw [isWordStart, Bool.and_eq_true, isWord_iff, Bool.not_eq_true']
  constructor
  · rintro ⟨hletter | hdigit | hnumeral | hc, hno⟩
    · exact .inl hletter
    · rw [hdigit] at hno
      cases hno
    · exact .inr (.inl hnumeral)
    · exact .inr (.inr hc)
  · rintro (hletter | hnumeral | rfl)
    · exact ⟨.inl hletter, isDecimalDigit_of_isLetter hletter⟩
    · refine ⟨.inr (.inr (.inl hnumeral)), ?_⟩
      rw [← Bool.not_eq_true]
      intro hdigit
      rw [isOtherNumeral_of_isDecimalDigit hdigit] at hnumeral
      cases hnumeral
    · exact ⟨.inr (.inr (.inr rfl)), hunderscore⟩

end CodePoint

end JuliaLookup
