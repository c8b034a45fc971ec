import JuliaLookup.Value.Json
import Mathlib.Data.List.TakeDrop
import Mathlib.Tactic.SplitIfs

/-!
# Words as JSON

A text that begins with a letter writes one of the few names that a reader of JSON knows, or nothing at all.
So no word but `null` itself stands for a list, an object or null.
-/

namespace JuliaLookup

namespace CodePoint

variable {c d : CodePoint}

/-- A letter of ASCII. -/
def isAsciiLetter (c : CodePoint) : Bool :=
  (65 ≤ c.val && c.val ≤ 90) || (97 ≤ c.val && c.val ≤ 122)

theorem isAsciiLetter_iff :
    c.isAsciiLetter = true ↔ (65 ≤ c.val ∧ c.val ≤ 90) ∨ (97 ≤ c.val ∧ c.val ≤ 122) := by
  simp [isAsciiLetter]

theorem isAsciiLetter_asciiLower : c.asciiLower.isAsciiLetter = true ↔ c.isAsciiLetter = true := by
  rw [isAsciiLetter_iff, isAsciiLetter_iff]
  unfold asciiLower
  split_ifs with hcapital
  · dsimp only
    omega
  · exact Iff.rfl

theorem asciiLower_eq_self (h : c.isAsciiLetter = false) : c.asciiLower = c := by
  unfold asciiLower
  split_ifs with hcapital
  · rw [isAsciiLetter_iff.mpr (.inl hcapital)] at h
    cases h
  · rfl

theorem ne_of_isAsciiLetter (h : c.isAsciiLetter = true) (hd : d.isAsciiLetter = false) : c ≠ d := by
  rintro rfl
  rw [h] at hd
  cases hd

end CodePoint

namespace Text

/-- The text begins with a letter of ASCII. -/
def beginsWithLetter (t : Text) : Bool := t.head?.any CodePoint.isAsciiLetter

theorem beginsWithLetter_asciiLower (t : Text) :
    t.asciiLower.beginsWithLetter = true ↔ t.beginsWithLetter = true := by
  cases t with
  | nil => exact Iff.rfl
  | cons c rest => exact CodePoint.isAsciiLetter_asciiLower

/-- A text without letters has one form only. -/
theorem asciiLower_eq_self {t : Text} (h : t.asciiLower.any CodePoint.isAsciiLetter = false) :
    t.asciiLower = t := by
  have hself : ∀ c ∈ t, c.asciiLower = c := by
    intro c hc
    have hlower : ¬ c.asciiLower.isAsciiLetter = true :=
      List.any_eq_false.mp h c.asciiLower (List.mem_map_of_mem hc)
    have hletter : ¬ c.isAsciiLetter = true := mt CodePoint.isAsciiLetter_asciiLower.mpr hlower
    exact CodePoint.asciiLower_eq_self (Bool.eq_false_iff.mpr hletter)
  exact (List.map_congr_left hself).trans (List.map_id t)

end Text

namespace Json

variable {c : CodePoint} {t rest : Text} {v : Value}

/-- The names stand for truth values, numbers and null, and for null only its own. -/
theorem readName_cases (h : readName t = some (v, rest)) :
    (v = .null ∧ t = ("null" : Text) ++ rest) ∨ (∃ b, v = .bool b) ∨ ∃ n, v = .number n := by
  unfold readName at h
  obtain ⟨⟨name, w⟩, hmem, hfound⟩ := List.exists_of_findSome?_eq_some h
  obtain ⟨after, hafter, heq⟩ := Option.map_eq_some_iff.mp hfound
  obtain ⟨rfl, rfl⟩ := Prod.mk.inj heq
  simp only [List.mem_cons, List.not_mem_nil, or_false, Prod.mk.injEq] at hmem
  rcases hmem with ⟨rfl, rfl⟩ | ⟨-, rfl⟩ | ⟨-, rfl⟩ | ⟨-, rfl⟩ | ⟨-, rfl⟩ | ⟨-, rfl⟩
  · exact .inl ⟨rfl, Text.after?_eq_some_iff.mp hafter⟩
  · exact .inr (.inl ⟨true, rfl⟩)
  · exact .inr (.inl ⟨false, rfl⟩)
  · exact .inr (.inr ⟨_, rfl⟩)
  · exact .inr (.inr ⟨_, rfl⟩)
  · exact .inr (.inr ⟨_, rfl⟩)

section Letters

variable (h : c.isAsciiLetter = true)
include h

theorem readNumber_of_isAsciiLetter : readNumber (c :: rest) = .error .malformed := by
  have hminus : c ≠ CodePoint.ofChar '-' := CodePoint.ne_of_isAsciiLetter h (by decide)
  have hzero : c ≠ CodePoint.ofChar '0' := CodePoint.ne_of_isAsciiLetter h (by decide)
  have hdigit : c.isAsciiDigit = false := by
    have hrange := CodePoint.isAsciiLetter_iff.mp h
    simp only [CodePoint.isAsciiDigit, Bool.and_eq_false_iff, decide_eq_false_iff_not]
    omega
  have htake : Number.takeDigits (c :: rest) = ([], c :: rest) := by
    rw [Number.takeDigits, List.span_eq_takeWhile_dropWhile]
    simp [hdigit]
  simp [readNumber, hminus, hzero, htake]

/-- Of a text that begins with a letter, only a name can be read. -/
theorem readValue_of_isAsciiLetter (fuel depth : Nat) : readValue (fuel + 1) depth (c :: rest) =
    match readName (c :: rest) with
    | some found => .ok found
    | none => .error .malformed := by
  have hmark : c ≠ CodePoint.ofChar '"' := CodePoint.ne_of_isAsciiLetter h (by decide)
  have hlist : c ≠ CodePoint.ofChar '[' := CodePoint.ne_of_isAsciiLetter h (by decide)
  have hobject : c ≠ CodePoint.ofChar '\x7b' := CodePoint.ne_of_isAsciiLetter h (by decide)
  unfold readValue
  rw [if_neg hmark, if_neg hlist, if_neg hobject]
  cases readName (c :: rest) with
  | some found => rfl
  | none =>
    dsimp only
    rw [readNumber_of_isAsciiLetter h]
    rfl

/-- A text that begins with a letter is read as a name, or not at all. -/
theorem read_of_isAsciiLetter (rest : Text) :
    (∃ v rest', readName (c :: rest) = some (v, rest') ∧ read (c :: rest) = .ok v) ∨
      read (c :: rest) = .error .malformed := by
  have hgap : isGap c = false := by
    have hrange := CodePoint.isAsciiLetter_iff.mp h
    simp only [isGap, Bool.or_eq_false_iff, beq_eq_false_iff_ne]
    omega
  have hskip : skipGap (c :: rest) = c :: rest := by
    rw [skipGap, List.dropWhile_cons, hgap, if_neg Bool.false_ne_true]
  unfold read
  rw [hskip, readValue_of_isAsciiLetter h]
  cases readName (c :: rest) with
  | none => exact .inr rfl
  | some found =>
    obtain ⟨v, rest'⟩ := found
    show _ ∨ (if (skipGap rest').isEmpty = true then Except.ok v else .error Fault.malformed) = _
    by_cases hend : (skipGap rest').isEmpty = true
    · exact .inl ⟨v, rest', rfl, if_pos hend⟩
    · exact .inr (if_neg hend)

end Letters

end Json

end JuliaLookup
