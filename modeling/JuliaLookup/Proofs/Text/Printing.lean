import JuliaLookup.Proofs.Text.Hidden
import JuliaLookup.Proofs.Text.Pieces
import JuliaLookup.Text.Quoted

/-!
# Printable texts

Texts that are all on one line and all to be seen: every code point is printable. They are put together from
printable parts, and numbers are written in them.
-/

namespace JuliaLookup

namespace CodePoint

/-- ASCII without its controls. -/
def isVisibleAscii (c : CodePoint) : Bool := 0x20 ≤ c.val && c.val ≤ 0x7e

theorem isPrintable_of_ascii {c : CodePoint} (hlow : 0x20 ≤ c.val) (hhigh : c.val ≤ 0x7e) :
    c.isPrintable = true := by
  rw [isPrintable, RangeTable.holds_iff isSorted_printables]
  exact ⟨(0x20, 0x7e), List.mem_cons_self, hlow, hhigh⟩

end CodePoint

namespace Text

/-- Every code point of a text is printable. -/
def IsPrintable (t : Text) : Prop := ∀ c ∈ t, c.isPrintable = true

variable {sep s t : Text} {c : CodePoint}

@[simp] theorem isPrintable_nil : IsPrintable [] := List.forall_mem_nil _

@[simp] theorem isPrintable_cons : IsPrintable (c :: t) ↔ c.isPrintable = true ∧ t.IsPrintable :=
  List.forall_mem_cons

@[simp] theorem isPrintable_append : IsPrintable (s ++ t) ↔ s.IsPrintable ∧ t.IsPrintable :=
  List.forall_mem_append

theorem isPrintable_of_all (h : t.all CodePoint.isVisibleAscii = true) : t.IsPrintable := by
  intro c hc
  have hvisible := List.all_eq_true.mp h c hc
  rw [CodePoint.isVisibleAscii, Bool.and_eq_true, decide_eq_true_eq, decide_eq_true_eq] at hvisible
  exact CodePoint.isPrintable_of_ascii hvisible.1 hvisible.2

/-- A fixed text in front does no harm. -/
theorem isPrintable_fixed_append (hs : s.all CodePoint.isVisibleAscii = true) (ht : t.IsPrintable) :
    (s ++ t).IsPrintable :=
  isPrintable_append.mpr ⟨isPrintable_of_all hs, ht⟩

theorem IsPrintable.of_subset (h : t.IsPrintable) (hsub : s ⊆ t) : s.IsPrintable :=
  fun c hc => h c (hsub hc)

theorem isPrintable_replicate (n : Nat) (h : c.isPrintable = true) :
    IsPrintable (List.replicate n c) := by
  intro d hd
  rw [List.eq_of_mem_replicate hd]
  exact h

theorem isPrintable_join {parts : List Text} (hsep : sep.IsPrintable)
    (hparts : ∀ p ∈ parts, p.IsPrintable) : (join sep parts).IsPrintable := by
  intro c hc
  rcases mem_join hc with hc | ⟨p, hp, hc⟩
  · exact hsep c hc
  · exact hparts p hp c hc

/-- A printable text holds nothing of a hidden class. -/
theorem IsPrintable.holds_hidden (h : t.IsPrintable) (hc : c ∈ t) {table : RangeTable}
    (htable : table ∈ hiddenClasses) : table.holds c.val = false :=
  CodePoint.holds_hidden_of_isPrintable (h c hc) htable

/-! ### Numbers -/

theorem isPrintable_ofNat (n : Nat) : (ofNat n).IsPrintable := by
  intro c hc
  rw [ofNat, ofString, Nat.toString_eq_ofList_toDigits, String.toList_ofList] at hc
  obtain ⟨d, hd, rfl⟩ := List.mem_map.mp hc
  have hdigit := Char.isDigit_iff_toNat.mp (Nat.isDigit_of_mem_toDigits (by decide) (by decide) hd)
  have hval : 48 ≤ (CodePoint.ofChar d).val ∧ (CodePoint.ofChar d).val ≤ 57 := hdigit
  exact CodePoint.isPrintable_of_ascii (by omega) (by omega)

theorem isPrintable_hexDigit (n : Nat) : (hexDigit n).isPrintable = true := by
  unfold hexDigit
  split_ifs with h
  · exact CodePoint.isPrintable_of_ascii (by simp; omega) (by simp; omega)
  · exact CodePoint.isPrintable_of_ascii (by simp; omega) (by simp; omega)

theorem isPrintable_hex (width n : Nat) : (hex width n).IsPrintable := by
  induction width generalizing n with
  | zero => exact isPrintable_nil
  | succ width ih =>
    rw [hex, isPrintable_append]
    exact ⟨ih (n / 16), by simpa using isPrintable_hexDigit n⟩

end Text

end JuliaLookup
