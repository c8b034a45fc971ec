import Mathlib.Data.List.Basic
import JuliaLookup.Text.Search

/-!
# Cutting and joining

Joining texts that are free of the separator and cutting the result again gives the same texts back. The
number of pieces is one more than the number of separators.
-/

namespace JuliaLookup.Text

variable {sep : CodePoint} {a s t : Text}

theorem pieces_cons_of_ne {c : CodePoint} (h : c ≠ sep) : ∃ piece others,
    pieces sep t = piece :: others ∧ pieces sep (c :: t) = (c :: piece) :: others := by
  cases ht : pieces sep t with
  | nil => exact absurd ht (pieces_ne_nil sep t)
  | cons piece others => exact ⟨piece, others, rfl, by rw [pieces, if_neg h, ht]⟩

/-- The pieces are those of the list of code points split at every separator. -/
theorem pieces_eq_splitOn (sep : CodePoint) (t : Text) : pieces sep t = t.splitOn sep := by
  induction t with
  | nil => simp [pieces]
  | cons c rest ih =>
    rw [List.splitOn_cons_eq_if_modifyHead]
    by_cases hc : c = sep
    · simp [pieces, hc, ih]
    · obtain ⟨piece, others, hpieces, hcons⟩ := pieces_cons_of_ne (t := rest) hc
      rw [hcons, ← ih, hpieces]
      simp [hc]

/-- A text without the separator is one piece. -/
theorem pieces_of_notMem (h : sep ∉ t) : pieces sep t = [t] := by
  rw [pieces_eq_splitOn, List.splitOn_eq_singleton h]

/-- The first separator ends the first piece. -/
theorem pieces_append_cons (h : sep ∉ a) : pieces sep (a ++ sep :: s) = a :: pieces sep s := by
  rw [pieces_eq_splitOn, pieces_eq_splitOn, List.splitOn_append_cons_self_of_not_mem h]

theorem join_cons_cons (sep a b : Text) (rest : List Text) :
    join sep (a :: b :: rest) = a ++ (sep ++ join sep (b :: rest)) := by
  rw [join, List.intercalate_cons_cons, List.append_assoc, join]

/-- A text and others joined to it: each of the others stands behind a separator. -/
theorem join_cons_eq_flatMap (sep a : Text) (rest : List Text) :
    join sep (a :: rest) = a ++ rest.flatMap fun s => sep ++ s := by
  induction rest generalizing a with
  | nil => simp [join]
  | cons b rest ih => rw [join_cons_cons, ih, List.flatMap_cons, List.append_assoc]

theorem mem_join {sep : Text} {c : CodePoint} {parts : List Text} (h : c ∈ join sep parts) :
    c ∈ sep ∨ ∃ p ∈ parts, c ∈ p := by
  cases parts with
  | nil => cases h
  | cons a rest =>
    rw [join_cons_eq_flatMap, List.mem_append, List.mem_flatMap] at h
    rcases h with h | ⟨p, hp, hc⟩
    · exact .inr ⟨a, List.mem_cons_self, h⟩
    · rcases List.mem_append.mp hc with hc | hc
      · exact .inl hc
      · exact .inr ⟨p, List.mem_cons_of_mem a hp, hc⟩

theorem mem_join_of_mem {sep p : Text} {c : CodePoint} {parts : List Text} (hp : p ∈ parts)
    (hc : c ∈ p) : c ∈ join sep parts := by
  obtain ⟨a, rest, rfl⟩ := List.exists_cons_of_ne_nil (List.ne_nil_of_mem hp)
  rw [join_cons_eq_flatMap, List.mem_append, List.mem_flatMap]
  rcases List.mem_cons.mp hp with rfl | hp
  · exact .inl hc
  · exact .inr ⟨p, hp, List.mem_append_right sep hc⟩

theorem exists_join_cons (sep a : Text) (rest : List Text) :
    ∃ more, join sep (a :: rest) = a ++ more :=
  ⟨_, join_cons_eq_flatMap sep a rest⟩

theorem exists_join_concat (sep : Text) (parts : List Text) (a : Text) :
    ∃ more, join sep (parts ++ [a]) = more ++ a := by
  cases parts with
  | nil => exact ⟨[], by simp [join]⟩
  | cons b rest =>
    refine ⟨b ++ ((rest.flatMap fun s => sep ++ s) ++ sep), ?_⟩
    rw [List.cons_append, join_cons_eq_flatMap, List.flatMap_append]
    simp

/-- One more text stands behind a separator. -/
theorem join_concat {sep : Text} {parts : List Text} (hne : parts ≠ []) (a : Text) :
    join sep (parts ++ [a]) = join sep parts ++ (sep ++ a) := by
  obtain ⟨b, rest, rfl⟩ := List.exists_cons_of_ne_nil hne
  rw [List.cons_append, join_cons_eq_flatMap, join_cons_eq_flatMap, List.flatMap_append,
    List.flatMap_singleton, List.append_assoc]

/-- Texts without the separator are the pieces of what they join to. -/
theorem pieces_join {parts : List Text} (hne : parts ≠ []) (h : ∀ p ∈ parts, sep ∉ p) :
    pieces sep (join [sep] parts) = parts := by
  rw [pieces_eq_splitOn, join, List.splitOn_intercalate sep h hne]

/-- Cutting loses nothing: the pieces joined again are the text. -/
theorem join_pieces (sep : CodePoint) (t : Text) : join [sep] (pieces sep t) = t := by
  rw [pieces_eq_splitOn, join, List.intercalate_splitOn]

/-- What is in a piece is in the text. -/
theorem mem_of_mem_pieces {c : CodePoint} {piece : Text} (hpiece : piece ∈ pieces sep t) (hc : c ∈ piece) :
    c ∈ t := by
  have hjoin : c ∈ join [sep] (pieces sep t) := mem_join_of_mem hpiece hc
  rwa [join_pieces] at hjoin

theorem length_pieces (sep : CodePoint) (t : Text) : (pieces sep t).length = t.count sep + 1 := by
  induction t with
  | nil => rfl
  | cons c rest ih =>
    by_cases hc : c = sep
    · rw [pieces, if_pos hc, List.length_cons, ih, hc, List.count_cons_self]
    · obtain ⟨piece, others, hpieces, hcons⟩ := pieces_cons_of_ne (t := rest) hc
      rw [hpieces] at ih
      rw [hcons, List.length_cons, List.count_cons_of_ne hc, ← ih, List.length_cons]

end JuliaLookup.Text
