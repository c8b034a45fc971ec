import JuliaLookup.Text.Blank
import Mathlib.Data.List.DropRight

/-!
# Blank texts

A text is blank if and only if nothing is left of it without the blanks at its ends. What is left has none
at its ends, so taking them off again changes nothing.
-/

namespace JuliaLookup.Text

theorem trim_eq_nil_iff {p : CodePoint → Bool} {t : Text} : t.trim p = [] ↔ ∀ c ∈ t, p c = true := by
  rw [trim, List.reverse_eq_nil_iff, List.dropWhile_eq_nil_iff]
  simp only [List.mem_reverse]
  constructor
  · intro h c hc
    rw [← List.takeWhile_append_dropWhile (p := p) (l := t)] at hc
    rcases List.mem_append.mp hc with hc | hc
    · exact List.all_eq_true.mp List.all_takeWhile c hc
    · exact h c hc
  · intro h c hc
    exact h c ((List.dropWhile_sublist p).subset hc)

theorem mem_of_mem_trim {p : CodePoint → Bool} {t : Text} {c : CodePoint} (h : c ∈ t.trim p) : c ∈ t :=
  (List.dropWhile_sublist p).subset ((List.rdropWhile_prefix p (t.dropWhile p)).subset h)

theorem trim_trim (p : CodePoint → Bool) (t : Text) : (t.trim p).trim p = t.trim p := by
  -- the end is cut off after the start, and leaves the first code point where it is
  have hstart : (t.trim p).dropWhile p = t.trim p := by
    rw [List.dropWhile_eq_self_iff]
    intro hpos
    have hprefix : t.trim p <+: t.dropWhile p := List.rdropWhile_prefix p (t.dropWhile p)
    have hfirst := hprefix.getElem hpos
    rw [hfirst]
    exact List.dropWhile_get_zero_not p t (hpos.trans_le hprefix.length_le)
  have hend : (t.trim p).rdropWhile p = t.trim p := List.rdropWhile_idempotent p (t.dropWhile p)
  show ((t.trim p).dropWhile p).rdropWhile p = t.trim p
  rw [hstart, hend]

/-- A text that holds nothing to take off stays as it is. -/
theorem trim_eq_self {p : CodePoint → Bool} {t : Text} (h : ∀ c ∈ t, p c = false) : t.trim p = t := by
  have hstart : t.dropWhile p = t := by
    rw [List.dropWhile_eq_self_iff]
    intro hpos
    simp [h _ (List.getElem_mem hpos)]
  have hend : t.rdropWhile p = t := by
    rw [List.rdropWhile_eq_self_iff]
    intro hne
    simp [h _ (List.getLast_mem hne)]
  show (t.dropWhile p).rdropWhile p = t
  rw [hstart, hend]

theorem strip_strip (t : Text) : t.strip.strip = t.strip := trim_trim CodePoint.isBlank t

theorem isBlank_iff_strip_eq_nil {t : Text} : t.isBlank = true ↔ t.strip = [] := by
  rw [isBlank, List.all_eq_true, strip, trim_eq_nil_iff]

theorem isBlank_eq_false_iff {t : Text} : t.isBlank = false ↔ t.strip ≠ [] := by
  rw [← Bool.not_eq_true, isBlank_iff_strip_eq_nil]

end JuliaLookup.Text
