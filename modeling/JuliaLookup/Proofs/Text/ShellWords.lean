import JuliaLookup.Text.Shell
import Mathlib.Data.List.Basic

/-!
# Words on a line

What a shell reads where a word was quoted: the word itself, added to what stands before it. Plain marks are
read as they are wherever a word can be, and everything is between single marks; so a quoted word can be
glued to plain text. Main statement: `words?_line`, by which the words of a written line are read back.
-/

namespace JuliaLookup.Shell

variable {c : CodePoint} {word t rest : Text}

/-- What stands for itself outside quotation marks. -/
structure IsPlain (c : CodePoint) : Prop where
  not_separator : isSeparator c = false
  not_mark : c ≠ mark
  not_doubleMark : c ≠ CodePoint.ofChar '"'
  not_backslash : c ≠ CodePoint.ofChar '\\'
  not_active : isActive c = false

/-- No safe mark means anything to a shell. -/
theorem isPlain_of_isSafe (h : isSafe c = true) : IsPlain c := by
  have hne (d : CodePoint) (hd : isSafe d = false) : c ≠ d := by
    rintro rfl
    rw [hd] at h
    cases h
  refine ⟨?_, hne _ (by decide), hne _ (by decide +kernel), hne _ (by decide +kernel), ?_⟩
  · have hspace : c ≠ CodePoint.ofChar ' ' := hne _ (by decide)
    have htab : c ≠ CodePoint.ofChar '\t' := hne _ (by decide)
    rw [isSeparator, Bool.or_eq_false_iff, beq_eq_false_iff_ne, beq_eq_false_iff_ne]
    exact ⟨fun hval => hspace (Fin.ext hval), fun hval => htab (Fin.ext hval)⟩
  · have hactive : ("|&;<>()$\x60*?[]#~!\x7b\x7d\n" : Text).all (!isSafe ·) = true := by decide
    rw [isActive, ← Bool.not_eq_true, List.contains_iff_mem]
    intro hmem
    have hspecial := List.all_eq_true.mp hactive c hmem
    rw [h] at hspecial
    cases hspecial

/-! ### Outside quotation marks -/

theorem wordsFrom_bare_cons (h : IsPlain c) :
    wordsFrom .bare word (c :: rest) = wordsFrom .bare (word ++ [c]) rest := by
  rw [wordsFrom, if_neg (by simp [h.not_separator]), if_neg h.not_mark, if_neg h.not_doubleMark,
    if_neg h.not_backslash, if_neg (by simp [h.not_active])]
  all_goals nofun

theorem wordsFrom_bare_append (h : ∀ c ∈ t, IsPlain c) :
    wordsFrom .bare word (t ++ rest) = wordsFrom .bare (word ++ t) rest := by
  induction t generalizing word with
  | nil => rw [List.nil_append, List.append_nil]
  | cons c t ih =>
    obtain ⟨hc, ht⟩ := List.forall_mem_cons.mp h
    rw [List.cons_append, wordsFrom_bare_cons hc, ih ht, List.append_assoc, List.singleton_append]

/-- A word that begins after a gap begins empty. -/
theorem wordsFrom_gap_cons (h : isSeparator c = false) :
    wordsFrom .gap word (c :: rest) = wordsFrom .bare word (c :: rest) := by
  simp only [wordsFrom, h, Bool.false_eq_true, if_false]

/-- A space ends a word. -/
theorem wordsFrom_bare_space :
    wordsFrom .bare word (CodePoint.ofChar ' ' :: rest) = (wordsFrom .gap [] rest).map (word :: ·) := by
  have hspace : isSeparator (CodePoint.ofChar ' ') = true := by decide
  rw [wordsFrom, if_pos hspace, if_neg (by decide)]
  all_goals nofun

/-! ### Between single marks -/

theorem wordsFrom_bare_mark :
    wordsFrom .bare word (mark :: rest) = wordsFrom .single word rest := by
  rw [wordsFrom, if_neg (by decide), if_pos rfl]
  all_goals nofun

/-- A single mark is read back from between double marks. -/
theorem wordsFrom_quotePoint (c : CodePoint) (word rest : Text) :
    wordsFrom .single word (quotePoint c ++ rest) = wordsFrom .single (word ++ [c]) rest := by
  by_cases hc : c = mark
  · subst hc
    have hdouble : CodePoint.ofChar '"' ≠ mark := by decide
    have hquoted : quotePoint mark =
        [mark, CodePoint.ofChar '"', mark, CodePoint.ofChar '"', mark] := by rw [quotePoint, if_pos rfl]; rfl
    have hactive : isActiveInDouble mark = false := by decide
    have hseparator : isSeparator (CodePoint.ofChar '"') = false := by decide
    have hmarkSeparator : isSeparator mark = false := by decide
    simp [hquoted, wordsFrom, hdouble, hdouble.symm, hactive, hseparator, hmarkSeparator]
  · rw [quotePoint, if_neg hc, List.singleton_append, wordsFrom, if_neg hc]

theorem wordsFrom_single_quoted (t word rest : Text) :
    wordsFrom .single word (t.flatMap quotePoint ++ mark :: rest) = wordsFrom .bare (word ++ t) rest := by
  induction t generalizing word with
  | nil => rw [List.flatMap_nil, List.nil_append, wordsFrom, if_pos rfl, List.append_nil]
  | cons c t ih =>
    rw [List.flatMap_cons, List.append_assoc, wordsFrom_quotePoint, ih, List.append_assoc,
      List.singleton_append]

/-! ### Quoted words -/

/-- A quoted word is read as the word, glued to what stands before it. -/
theorem wordsFrom_quote (t word rest : Text) :
    wordsFrom .bare word (quote t ++ rest) = wordsFrom .bare (word ++ t) rest := by
  unfold quote
  split_ifs with hempty hsafe
  · obtain rfl := List.isEmpty_iff.mp hempty
    change wordsFrom .bare word (mark :: mark :: rest) = _
    rw [wordsFrom_bare_mark, wordsFrom, if_pos rfl, List.append_nil]
  · exact wordsFrom_bare_append fun c hc => isPlain_of_isSafe (List.all_eq_true.mp hsafe c hc)
  · rw [List.cons_append, List.append_assoc, List.singleton_append, wordsFrom_bare_mark,
      wordsFrom_single_quoted]

/-- Without a single mark in it, a word that has to be quoted is put between them as it is. -/
theorem quote_of_mem (hc : c ∈ t) (hspecial : isSafe c = false) (hmark : mark ∉ t) :
    quote t = mark :: (t ++ [mark]) := by
  have hsafe : ¬ t.all isSafe = true := by
    intro hall
    rw [List.all_eq_true.mp hall c hc] at hspecial
    cases hspecial
  have hempty : ¬ t.isEmpty = true := fun hnil => hsafe (List.isEmpty_iff.mp hnil ▸ rfl)
  have hpoint : ∀ d ∈ t, quotePoint d = [d] := by
    intro d hd
    rw [quotePoint, if_neg]
    rintro rfl
    exact hmark hd
  rw [quote, if_neg hempty, if_neg hsafe, List.flatMap_congr hpoint, List.flatMap_singleton']

/-- No quoted word begins with a gap. -/
theorem exists_quote_cons (t : Text) : ∃ c rest, quote t = c :: rest ∧ isSeparator c = false := by
  unfold quote
  split_ifs with hempty hsafe
  · exact ⟨mark, [mark], rfl, by decide⟩
  · cases t with
    | nil => exact absurd rfl hempty
    | cons c rest =>
      have hc : isSafe c = true := List.all_eq_true.mp hsafe c List.mem_cons_self
      exact ⟨c, rest, rfl, (isPlain_of_isSafe hc).not_separator⟩
  · exact ⟨mark, _, rfl, by decide⟩

/-- A quoted word begins a word of its own after a gap. -/
theorem wordsFrom_gap_quote (t rest : Text) :
    wordsFrom .gap [] (quote t ++ rest) = wordsFrom .bare t rest := by
  obtain ⟨c, more, hquote, hc⟩ := exists_quote_cons t
  have hbare := wordsFrom_quote t [] rest
  rw [hquote, List.cons_append] at hbare ⊢
  rw [wordsFrom_gap_cons hc, hbare, List.nil_append]

/-- The words of a written line are read back, whatever they are. -/
theorem words?_line (words : List Text) : words? (line words) = some words := by
  have hspace : (" " : Text) = [CodePoint.ofChar ' '] := rfl
  rw [words?, line, Text.join, hspace]
  induction words with
  | nil => rfl
  | cons word words ih =>
    cases words with
    | nil =>
      have hword := wordsFrom_gap_quote word []
      rw [List.append_nil] at hword
      rw [List.map_cons, List.map_nil, List.intercalate_singleton, hword]
      rfl
    | cons next words =>
      rw [List.map_cons, List.map_cons, List.intercalate_cons_cons, List.append_assoc,
        wordsFrom_gap_quote, List.singleton_append, wordsFrom_bare_space]
      rw [List.map_cons] at ih
      rw [ih]
      rfl

/-- A line goes on with the words that are written after a space. -/
theorem wordsFrom_bare_line (word : Text) (words : List Text) :
    wordsFrom .bare word (CodePoint.ofChar ' ' :: line words) = some (word :: words) := by
  have hwords := words?_line words
  rw [words?] at hwords
  rw [wordsFrom_bare_space, hwords]
  rfl

end JuliaLookup.Shell
