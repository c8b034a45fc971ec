import Mathlib.Computability.Language
import JuliaLookup.Proofs.Julia.PathPoints
import JuliaLookup.Proofs.Julia.Segments
import JuliaLookup.Proofs.Text.Blanks

/-!
# The pattern of symbol paths

Symbol paths said in two more ways: as the language of a pattern, and by splitting at every point. The
pattern repeats within a segment and over segments; a split looks at each piece by itself. Main statement:
`isValid_by_pieces`, with what follows for paths put together and for blanks around a path.
-/

open scoped Computability

namespace JuliaLookup

/-- The texts of one code point of a class. -/
def CodePoint.only (p : CodePoint → Bool) : Language CodePoint := {t | ∃ c, t = [c] ∧ p c = true}

namespace SymbolPath

/-- A word character that is no decimal digit, and then any number of word characters and exclamation
marks. -/
def segmentPattern : Language CodePoint :=
  CodePoint.only CodePoint.isWordStart * (CodePoint.only isSegmentRest)∗

/-- A segment, and then any number of segments with a point before each. -/
def pattern : Language CodePoint :=
  segmentPattern * (CodePoint.only (· == dot) * segmentPattern)∗

variable {p : CodePoint → Bool} {path s t : Text}

/-! ### The language of the pattern -/

theorem mem_kstar_only : t ∈ (CodePoint.only p)∗ ↔ ∀ c ∈ t, p c = true := by
  rw [Language.mem_kstar]
  constructor
  · rintro ⟨parts, rfl, hparts⟩ c hc
    obtain ⟨part, hpart, hc⟩ := List.mem_flatten.mp hc
    obtain ⟨d, rfl, hd⟩ := hparts part hpart
    obtain rfl := List.mem_singleton.mp hc
    exact hd
  · intro h
    refine ⟨t.map fun c => [c], (List.flatMap_singleton' t).symm, ?_⟩
    intro part hpart
    obtain ⟨c, hc, rfl⟩ := List.mem_map.mp hpart
    exact ⟨c, rfl, h c hc⟩

theorem mem_segmentPattern_iff : s ∈ segmentPattern ↔ IsSegment s := by
  rw [segmentPattern, Language.mem_mul]
  constructor
  · rintro ⟨first, ⟨c, rfl, hc⟩, rest, hrest, rfl⟩
    exact ⟨c, rest, rfl, hc, mem_kstar_only.mp hrest⟩
  · rintro ⟨c, rest, rfl, hc, hrest⟩
    exact ⟨[c], ⟨c, rfl, hc⟩, rest, mem_kstar_only.mpr hrest, rfl⟩

theorem mem_only_dot_mul_iff :
    t ∈ CodePoint.only (· == dot) * segmentPattern ↔ ∃ s, t = dot :: s ∧ IsSegment s := by
  rw [Language.mem_mul]
  constructor
  · rintro ⟨first, ⟨c, rfl, hc⟩, s, hs, rfl⟩
    obtain rfl := beq_iff_eq.mp hc
    exact ⟨s, rfl, mem_segmentPattern_iff.mp hs⟩
  · rintro ⟨s, rfl, hs⟩
    exact ⟨[dot], ⟨dot, rfl, beq_self_eq_true dot⟩, s, mem_segmentPattern_iff.mpr hs, rfl⟩

/-- The repetition over segments matches segments one after another, each behind a point. -/
theorem mem_kstar_only_dot_mul_iff : t ∈ (CodePoint.only (· == dot) * segmentPattern)∗ ↔
    ∃ segments : List Text, (∀ s ∈ segments, IsSegment s) ∧ t = segments.flatMap fun s => [dot] ++ s := by
  rw [Language.mem_kstar]
  constructor
  · rintro ⟨parts, rfl, hparts⟩
    induction parts with
    | nil => exact ⟨[], by simp, rfl⟩
    | cons part parts ih =>
      obtain ⟨hpart, hothers⟩ := List.forall_mem_cons.mp hparts
      obtain ⟨s, rfl, hs⟩ := mem_only_dot_mul_iff.mp hpart
      obtain ⟨segments, hsegments, hflat⟩ := ih hothers
      refine ⟨s :: segments, List.forall_mem_cons.mpr ⟨hs, hsegments⟩, ?_⟩
      simp [hflat]
  · rintro ⟨segments, hsegments, rfl⟩
    refine ⟨segments.map fun s => [dot] ++ s, List.flatMap_def, ?_⟩
    intro part hpart
    obtain ⟨s, hs, rfl⟩ := List.mem_map.mp hpart
    exact mem_only_dot_mul_iff.mpr ⟨s, rfl, hsegments s hs⟩

theorem mem_pattern_iff_exists_join : path ∈ pattern ↔
    ∃ segments : List Text, segments ≠ [] ∧ path = Text.join [dot] segments ∧
      ∀ s ∈ segments, IsSegment s := by
  rw [pattern, Language.mem_mul]
  constructor
  · rintro ⟨first, hfirst, rest, hrest, rfl⟩
    obtain ⟨segments, hsegments, rfl⟩ := mem_kstar_only_dot_mul_iff.mp hrest
    refine ⟨first :: segments, by simp, ?_, ?_⟩
    · rw [Text.join_cons_eq_flatMap]
    · exact List.forall_mem_cons.mpr ⟨mem_segmentPattern_iff.mp hfirst, hsegments⟩
  · rintro ⟨segments, hne, rfl, hsegments⟩
    obtain ⟨first, rest, rfl⟩ := List.exists_cons_of_ne_nil hne
    obtain ⟨hfirst, hrest⟩ := List.forall_mem_cons.mp hsegments
    refine ⟨first, mem_segmentPattern_iff.mpr hfirst, rest.flatMap fun s => [dot] ++ s, ?_, ?_⟩
    · exact mem_kstar_only_dot_mul_iff.mpr ⟨rest, hrest, rfl⟩
    · rw [Text.join_cons_eq_flatMap]

/-- The reader of symbol paths accepts the language of the pattern. -/
theorem isValid_iff_mem_pattern : isValid path = true ↔ path ∈ pattern := by
  rw [isValid_iff_forall_pieces, mem_pattern_iff_exists_join]
  constructor
  · intro h
    exact ⟨Text.pieces dot path, Text.pieces_ne_nil dot path, (Text.join_pieces dot path).symm, h⟩
  · rintro ⟨segments, hne, rfl, hsegments⟩
    rw [Text.pieces_join hne fun s hs => dot_notMem_of_isSegment (hsegments s hs)]
    exact hsegments

/-! ### Splitting -/

theorem isValid_iff_forall_splitOn : isValid path = true ↔ ∀ s ∈ path.splitOn dot, IsSegment s := by
  rw [isValid_iff_forall_pieces, Text.pieces_eq_splitOn]

/-- A point in a path has a path on either side. -/
theorem isValid_append_dot (a b : Text) :
    isValid (a ++ dot :: b) = true ↔ isValid a = true ∧ isValid b = true := by
  simp only [isValid_iff_forall_splitOn, List.splitOn_append_cons_self, List.forall_mem_append]

/-- No blanks stand around a path. -/
theorem strip_of_isValid (h : isValid path = true) : path.strip = path :=
  Text.trim_eq_self fun c hc => (isPlain_of_isValid h c hc).1

/-- The segments of a path are its pieces between points, and of each only the beginning is special: the
language of the pattern is what splitting at every point comes to. So paths are put together, and taken
apart, at any point, and a path has no blanks around it. -/
theorem isValid_by_pieces (path : Text) :
    (isValid path = true ↔ path ∈ pattern) ∧
    (isValid path = true ↔ ∀ s ∈ path.splitOn dot, s ≠ [] ∧ ∃ c rest, s = c :: rest ∧
      (c.isWord = true ∧ c.isDecimalDigit = false) ∧
      ∀ d ∈ rest, d.isWord = true ∨ d = CodePoint.ofChar '!') ∧
    (∀ a b, isValid (a ++ dot :: b) = true ↔ isValid a = true ∧ isValid b = true) ∧
    (isValid path = true → path.strip = path) := by
  refine ⟨isValid_iff_mem_pattern, ?_, isValid_append_dot, strip_of_isValid⟩
  have hstart (c : CodePoint) :
      c.isWordStart = true ↔ c.isWord = true ∧ c.isDecimalDigit = false := by
    simp [CodePoint.isWordStart]
  have hrest (d : CodePoint) :
      isSegmentRest d = true ↔ d.isWord = true ∨ d = CodePoint.ofChar '!' := by
    simp [isSegmentRest]
  have hsegment (s : Text) : IsSegment s ↔ s ≠ [] ∧ ∃ c rest, s = c :: rest ∧
      (c.isWord = true ∧ c.isDecimalDigit = false) ∧
      ∀ d ∈ rest, d.isWord = true ∨ d = CodePoint.ofChar '!' := by
    simp only [IsSegment, hstart, hrest]
    constructor
    · rintro ⟨c, rest, rfl, h⟩
      exact ⟨by simp, c, rest, rfl, h⟩
    · rintro ⟨-, h⟩
      exact h
  simp only [isValid_iff_forall_splitOn, hsegment]

end SymbolPath

end JuliaLookup
