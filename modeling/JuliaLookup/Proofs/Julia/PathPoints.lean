import Mathlib.Tactic.ByContra
import JuliaLookup.Julia.SymbolPath
import JuliaLookup.Text.Blank

/-!
# What symbol paths consist of

A symbol path holds word characters, exclamation marks and points, and nothing else. So no path holds a
blank, a separator of keys, or a mark that Julia code gives a meaning to.
-/

namespace JuliaLookup

/-- The marks that Julia code gives a meaning to around names: quotes, the backslash, the dollar sign, the
backquote, the number sign, the separators of lists and statements, brackets and braces. -/
def juliaMarks : Text := "\"'\\$\x60#;,()[]\x7b\x7d"

namespace SymbolPath

/-- Whether a code point can stand in a symbol path. -/
def isPathPoint (c : CodePoint) : Bool := c == dot || isSegmentRest c

theorem isPathPoint_of_continues {inside : Bool} {path : Text} (h : continues inside path = true) :
    ∀ c ∈ path, isPathPoint c = true := by
  induction path generalizing inside with
  | nil => intro c hc; cases hc
  | cons d rest ih =>
    have hd : isPathPoint d = true ∧ ∃ inside', continues inside' rest = true := by
      cases inside with
      | false =>
        simp only [continues, Bool.and_eq_true] at h
        have hword := CodePoint.isWord_of_isWordStart h.1
        exact ⟨by simp [isPathPoint, isSegmentRest, hword], true, h.2⟩
      | true =>
        by_cases hdot : d = dot
        · rw [continues, if_pos hdot] at h
          exact ⟨by simp [isPathPoint, hdot], false, h⟩
        · rw [continues, if_neg hdot, Bool.and_eq_true] at h
          exact ⟨by simp [isPathPoint, h.1], true, h.2⟩
    obtain ⟨hd, inside', hrest⟩ := hd
    intro c hc
    rcases List.mem_cons.mp hc with rfl | hc
    · exact hd
    · exact ih hrest c hc

theorem isPathPoint_of_mem {path : Text} (h : isValid path = true) {c : CodePoint} (hc : c ∈ path) :
    isPathPoint c = true :=
  isPathPoint_of_continues h c hc

/-- A code point that cannot stand in a path is in no path. -/
theorem notMem_of_isPathPoint {path : Text} (h : isValid path = true) {c : CodePoint}
    (hc : isPathPoint c = false) : c ∉ path := by
  intro hmem
  rw [isPathPoint_of_mem h hmem] at hc
  cases hc

theorem isPathPoint_blank {c : CodePoint} (hc : c.isBlank = true) : isPathPoint c = false := by
  have hall : ∀ n ∈ blanks, isPathPoint (Fin.ofNat 0x110000 n) = false := by decide +kernel
  have hval : Fin.ofNat 0x110000 c.val = c := Fin.ofNat_val_eq_self c
  rw [← hval]
  exact hall _ (CodePoint.isBlank_iff.mp hc)

theorem isPathPoint_juliaMarks {c : CodePoint} (hc : c ∈ juliaMarks) : isPathPoint c = false := by
  have hall : juliaMarks.all (!isPathPoint ·) = true := by decide +kernel
  simpa using List.all_eq_true.mp hall c hc

/-- A path is free of blanks and of the marks of Julia code. -/
theorem isPlain_of_isValid {path : Text} (h : isValid path = true) :
    ∀ c ∈ path, c.isBlank = false ∧ c ∉ juliaMarks := by
  intro c hc
  have hpoint := isPathPoint_of_mem h hc
  constructor
  · by_contra hblank
    rw [isPathPoint_blank (by simpa using hblank)] at hpoint
    cases hpoint
  · intro hmark
    rw [isPathPoint_juliaMarks hmark] at hpoint
    cases hpoint

/-- The first segment of a path consists of points of the path. -/
theorem mem_of_mem_head {path : Text} {c : CodePoint} (hc : c ∈ head path) : c ∈ path :=
  (List.takeWhile_sublist _).subset hc

end SymbolPath

end JuliaLookup
