import JuliaLookup.Proofs.Text.Quoting
import JuliaLookup.Value.Quoted

/-!
# Values are shown in printable text

However deep a value is and whatever the texts in it hold, it is shown on one line: texts and names are
quoted, and everything else is ASCII.
-/

namespace JuliaLookup

open Text (isPrintable_append isPrintable_nil isPrintable_of_all isPrintable_ofNat)

namespace Layout

theorem isPrintable_zeros (n : Nat) : Text.IsPrintable (List.replicate n (CodePoint.ofChar '0')) :=
  Text.isPrintable_replicate n (CodePoint.isPrintable_of_ascii (by decide) (by decide))

theorem isPrintable_writeExponent (e : Int) : (writeExponent e).IsPrintable := by
  have hsign : Text.IsPrintable (if e < 0 then "e-" else "e+" : String) := by
    split
    · exact isPrintable_of_all (by decide)
    · exact isPrintable_of_all (by decide)
  simp only [writeExponent, isPrintable_append]
  exact ⟨⟨hsign, isPrintable_zeros _⟩, isPrintable_ofNat _⟩

theorem isPrintable_point {digits : Text} (before : Nat) (h : digits.IsPrintable) :
    (point before digits).IsPrintable := by
  have hpoint : Text.IsPrintable "." := isPrintable_of_all (by decide)
  have hfirst := h.of_subset (List.take_subset before digits)
  have hothers := h.of_subset (List.drop_subset before digits)
  unfold point
  split
  · exact h
  · simp only [isPrintable_append]
    exact ⟨⟨hfirst, hpoint⟩, hothers⟩

theorem isPrintable_writeMagnitude (l : Layout) (x : Decimal) : (l.writeMagnitude x).IsPrintable := by
  have hdigits := isPrintable_ofNat (x.trimZeros 20).digits
  have hwhole : Text.IsPrintable ".0" := isPrintable_of_all (by decide)
  have hpart : Text.IsPrintable "0." := isPrintable_of_all (by decide)
  unfold writeMagnitude
  dsimp only
  split_ifs
  · simp only [isPrintable_append]
    exact ⟨⟨hdigits, isPrintable_zeros _⟩, hwhole⟩
  · simp only [isPrintable_append]
    exact ⟨⟨hdigits, isPrintable_zeros _⟩, isPrintable_nil⟩
  · exact isPrintable_point _ hdigits
  · simp only [isPrintable_append]
    exact ⟨⟨hpart, isPrintable_zeros _⟩, hdigits⟩
  · simp only [isPrintable_append]
    exact ⟨isPrintable_point 1 hdigits, isPrintable_writeExponent _⟩

theorem isPrintable_write (l : Layout) (round : Nat → Int → Decimal) (x : Float) :
    (l.write round x).IsPrintable := by
  unfold write
  split
  · exact isPrintable_of_all (by decide)
  · split
    · exact isPrintable_of_all (by decide)
    · exact isPrintable_of_all (by decide)
  · rw [isPrintable_append]
    refine ⟨?_, isPrintable_writeMagnitude l _⟩
    split
    · exact isPrintable_of_all (by decide)
    · exact isPrintable_nil

end Layout

theorem Number.isPrintable_text (n : Number) : n.text.IsPrintable := by
  cases n with
  | int n =>
    cases n with
    | ofNat n => exact isPrintable_ofNat n
    | negSucc n =>
      have hminus : (CodePoint.ofChar '-').isPrintable = true :=
        CodePoint.isPrintable_of_ascii (by decide) (by decide)
      exact Text.isPrintable_cons.mpr ⟨hminus, isPrintable_ofNat (n + 1)⟩
  | float x => exact Layout.isPrintable_write _ _ x

namespace Value

mutual

/-- Whatever a value holds, it is shown in printable text. -/
theorem isPrintable_quoted : (v : Value) → v.quoted.IsPrintable
  | null => isPrintable_of_all (by decide)
  | bool true => isPrintable_of_all (by decide)
  | bool false => isPrintable_of_all (by decide)
  | number n => n.isPrintable_text
  | str t => t.isPrintable_quoted
  | list items => by
    have hcomma : Text.IsPrintable ", " := isPrintable_of_all (by decide)
    rw [quoted, isPrintable_append, isPrintable_append]
    exact ⟨⟨isPrintable_of_all (by decide), Text.isPrintable_join hcomma (isPrintable_quotedItems items)⟩,
      isPrintable_of_all (by decide)⟩
  | object entries => by
    have hcomma : Text.IsPrintable ", " := isPrintable_of_all (by decide)
    rw [quoted, isPrintable_append, isPrintable_append]
    exact ⟨⟨isPrintable_of_all (by decide),
      Text.isPrintable_join hcomma (isPrintable_quotedEntries entries)⟩, isPrintable_of_all (by decide)⟩

theorem isPrintable_quotedItems : (items : List Value) → ∀ t ∈ quotedItems items, t.IsPrintable
  | [] => List.forall_mem_nil _
  | v :: rest => List.forall_mem_cons.mpr ⟨isPrintable_quoted v, isPrintable_quotedItems rest⟩

theorem isPrintable_quotedEntries :
    (entries : List (Text × Value)) → ∀ t ∈ quotedEntries entries, t.IsPrintable
  | [] => List.forall_mem_nil _
  | (name, v) :: rest => by
    have hcolon : Text.IsPrintable ": " := isPrintable_of_all (by decide)
    have hentry : Text.IsPrintable (name.quoted ++ ": " ++ quoted v) := by
      rw [isPrintable_append, isPrintable_append]
      exact ⟨⟨name.isPrintable_quoted, hcolon⟩, isPrintable_quoted v⟩
    exact List.forall_mem_cons.mpr ⟨hentry, isPrintable_quotedEntries rest⟩

end

end Value

end JuliaLookup
