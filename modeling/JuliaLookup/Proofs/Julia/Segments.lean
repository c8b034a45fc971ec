import Mathlib.Data.List.TakeWhile
import JuliaLookup.Julia.SymbolPath
import JuliaLookup.Proofs.Text.Classes
import JuliaLookup.Proofs.Text.Pieces

/-!
# Segments of symbol paths

A text is a symbol path if and only if every piece of it between points is a segment. Plain names are the
narrower class that the grammar of Julia's plain names has: letters or underscores first, then also decimal
digits and exclamation marks. Main statement: `isPlainPath_iff`, by which a symbol path is made of plain
names if and only if it holds no other numeral, such as a superscript or a fraction.
-/

namespace JuliaLookup.SymbolPath

/-- A word character that is no decimal digit, and after it what a segment may hold. -/
def IsSegment (s : Text) : Prop :=
  ∃ c rest, s = c :: rest ∧ c.isWordStart = true ∧ ∀ d ∈ rest, isSegmentRest d = true

/-- A letter or an underscore, and after it letters, decimal digits, underscores and exclamation marks. -/
def IsPlainName (s : Text) : Prop :=
  ∃ c rest, s = c :: rest ∧ (c.isLetter = true ∨ c = CodePoint.ofChar '_') ∧
    ∀ d ∈ rest, d.isLetter = true ∨ d.isDecimalDigit = true ∨ d = CodePoint.ofChar '_' ∨
      d = CodePoint.ofChar '!'

/-- One or more plain names with points between them. -/
def IsPlainPath (path : Text) : Prop :=
  ∃ names : List Text, names ≠ [] ∧ path = Text.join [dot] names ∧ ∀ s ∈ names, IsPlainName s

variable {path s : Text} {c : CodePoint}

/-! ### Pieces -/

theorem isWordStart_dot : dot.isWordStart = false := by decide

theorem isSegmentRest_dot : isSegmentRest dot = false := by decide

/-- The pieces of what ends a path: the first goes on with a segment if `inside`. -/
def EndPath : (inside : Bool) → List Text → Prop
  | true, piece :: others => (∀ d ∈ piece, isSegmentRest d = true) ∧ ∀ s ∈ others, IsSegment s
  | true, [] => False
  | false, pieces => ∀ s ∈ pieces, IsSegment s

theorem not_isSegment_nil : ¬ IsSegment [] := by
  rintro ⟨c, rest, hnil, -⟩
  cases hnil

theorem isSegment_cons {rest : Text} :
    IsSegment (c :: rest) ↔ c.isWordStart = true ∧ ∀ d ∈ rest, isSegmentRest d = true := by
  constructor
  · rintro ⟨c', rest', h, hstart, hrest⟩
    obtain ⟨rfl, rfl⟩ := List.cons.inj h
    exact ⟨hstart, hrest⟩
  · rintro ⟨hstart, hrest⟩
    exact ⟨c, rest, rfl, hstart, hrest⟩

/-- A point is no part of a segment. -/
theorem dot_notMem_of_isSegment (h : IsSegment s) : dot ∉ s := by
  obtain ⟨c, rest, rfl, hc, hrest⟩ := h
  rw [List.mem_cons, not_or]
  constructor
  · rintro rfl
    simp [isWordStart_dot] at hc
  · intro hmem
    have hdot := hrest dot hmem
    simp [isSegmentRest_dot] at hdot

theorem continues_iff {inside : Bool} :
    continues inside path = true ↔ EndPath inside (Text.pieces dot path) := by
  induction path generalizing inside with
  | nil =>
    cases inside with
    | true => simp [continues, Text.pieces, EndPath]
    | false => simp [continues, Text.pieces, EndPath, not_isSegment_nil]
  | cons c rest ih =>
    by_cases hc : c = dot
    · subst hc
      rw [Text.pieces, if_pos rfl]
      cases inside with
      | true => simp [continues, EndPath, ih]
      | false => simp [continues, EndPath, isWordStart_dot, not_isSegment_nil]
    · obtain ⟨piece, others, hpieces, hcons⟩ := Text.pieces_cons_of_ne (t := rest) hc
      have hrest : continues true rest = true ↔ EndPath true (Text.pieces dot rest) := ih
      rw [hpieces, EndPath] at hrest
      rw [hcons]
      cases inside with
      | true =>
        rw [continues, if_neg hc, Bool.and_eq_true, hrest, EndPath, List.forall_mem_cons, and_assoc]
      | false =>
        rw [continues, Bool.and_eq_true, hrest, EndPath, List.forall_mem_cons, isSegment_cons, and_assoc]

/-- Symbol paths are the texts all of whose pieces are segments. -/
theorem isValid_iff_forall_pieces : isValid path = true ↔ ∀ s ∈ Text.pieces dot path, IsSegment s :=
  continues_iff

/-! ### The first segment -/

/-- A text is all of a path that stands before its first point, or all of a path without points. -/
def IsFirst (s path : Text) : Prop := dot ∉ s ∧ (path = s ∨ ∃ rest, path = s ++ dot :: rest)

theorem takeWhile_of_dot_notMem (h : dot ∉ s) (t : Text) :
    (s ++ t).takeWhile (· != dot) = s ++ t.takeWhile (· != dot) := by
  refine List.takeWhile_append_of_pos fun c hc => ?_
  rw [bne_iff_ne]
  rintro rfl
  exact h hc

theorem isFirst_head (path : Text) : IsFirst (head path) path := by
  constructor
  · intro hmem
    have hdot := List.mem_takeWhile_imp hmem
    simp at hdot
  · have hpath : path = head path ++ path.dropWhile (· != dot) := List.takeWhile_append_dropWhile.symm
    cases hrest : path.dropWhile (· != dot) with
    | nil =>
      rw [hrest, List.append_nil] at hpath
      exact .inl hpath
    | cons c rest =>
      have hdot : c = dot := by simpa [hrest] using List.head?_dropWhile_not (· != dot) path
      rw [hrest, hdot] at hpath
      exact .inr ⟨rest, hpath⟩

theorem isFirst_iff : IsFirst s path ↔ s = head path := by
  constructor
  · rintro ⟨hdot, rfl | ⟨rest, rfl⟩⟩
    · have htake := takeWhile_of_dot_notMem hdot []
      rw [List.append_nil, List.takeWhile_nil, List.append_nil] at htake
      exact htake.symm
    · have htake := takeWhile_of_dot_notMem hdot (dot :: rest)
      rw [List.takeWhile_cons_of_neg (by simp), List.append_nil] at htake
      exact htake.symm
  · rintro rfl
    exact isFirst_head path

/-- The first segment of a symbol path is a symbol path by itself. -/
theorem isValid_head (h : isValid path = true) : isValid (head path) = true := by
  obtain ⟨hdot, hpath⟩ := isFirst_head path
  rw [isValid_iff_forall_pieces] at h ⊢
  rw [Text.pieces_of_notMem hdot, List.forall_mem_singleton]
  refine h (head path) ?_
  rcases hpath with hpath | ⟨rest, hpath⟩
  · have hwhole : dot ∉ path := by rwa [hpath]
    rw [Text.pieces_of_notMem hwhole, ← hpath]
    exact List.mem_singleton_self path
  · have hpieces := Text.pieces_append_cons (s := rest) hdot
    rw [← hpath] at hpieces
    rw [hpieces]
    exact List.mem_cons_self

/-! ### Plain names -/

theorem isSegmentRest_iff : isSegmentRest c = true ↔
    c.isLetter = true ∨ c.isDecimalDigit = true ∨ c.isOtherNumeral = true ∨ c = CodePoint.ofChar '_' ∨
      c = CodePoint.ofChar '!' := by
  rw [isSegmentRest, Bool.or_eq_true, beq_iff_eq, CodePoint.isWord_iff]
  simp only [or_assoc]

/-- A segment is a plain name unless it holds another numeral. -/
theorem isPlainName_iff : IsPlainName s ↔ IsSegment s ∧ ∀ c ∈ s, c.isOtherNumeral = false := by
  have hunderscore : (CodePoint.ofChar '_').isOtherNumeral = false := by decide
  have hbang : (CodePoint.ofChar '!').isOtherNumeral = false := by decide
  constructor
  · rintro ⟨c, rest, rfl, hc, hrest⟩
    refine ⟨isSegment_cons.mpr ⟨?_, fun d hd => ?_⟩, List.forall_mem_cons.mpr ⟨?_, fun d hd => ?_⟩⟩
    · exact CodePoint.isWordStart_iff.mpr (hc.imp_right .inr)
    · exact isSegmentRest_iff.mpr ((hrest d hd).imp_right (.imp_right .inr))
    · rcases hc with hletter | rfl
      · exact CodePoint.isOtherNumeral_of_isLetter hletter
      · exact hunderscore
    · rcases hrest d hd with hletter | hdigit | rfl | rfl
      · exact CodePoint.isOtherNumeral_of_isLetter hletter
      · exact CodePoint.isOtherNumeral_of_isDecimalDigit hdigit
      · exact hunderscore
      · exact hbang
  · rintro ⟨⟨c, rest, rfl, hstart, hrest⟩, hplain⟩
    obtain ⟨hplain, hplains⟩ := List.forall_mem_cons.mp hplain
    refine ⟨c, rest, rfl, ?_, fun d hd => ?_⟩
    · rcases CodePoint.isWordStart_iff.mp hstart with hletter | hnumeral | hc
      · exact .inl hletter
      · rw [hplain] at hnumeral
        cases hnumeral
      · exact .inr hc
    · rcases isSegmentRest_iff.mp (hrest d hd) with hletter | hdigit | hnumeral | hd
      · exact .inl hletter
      · exact .inr (.inl hdigit)
      · rw [hplains d hd] at hnumeral
        cases hnumeral
      · exact .inr (.inr hd)

theorem dot_notMem_of_isPlainName (h : IsPlainName s) : dot ∉ s :=
  dot_notMem_of_isSegment (isPlainName_iff.mp h).1

/-- No other numeral stands in a path of plain names. -/
theorem isOtherNumeral_of_isPlainPath (h : IsPlainPath path) : ∀ c ∈ path, c.isOtherNumeral = false := by
  have hdot : dot.isOtherNumeral = false := by decide
  obtain ⟨names, -, rfl, hnames⟩ := h
  intro c hc
  rcases Text.mem_join hc with hsep | ⟨s, hs, hc⟩
  · obtain rfl := List.mem_singleton.mp hsep
    exact hdot
  · exact (isPlainName_iff.mp (hnames s hs)).2 c hc

/-- The paths of plain names are the symbol paths without numerals other than decimal digits. -/
theorem isPlainPath_iff :
    IsPlainPath path ↔ isValid path = true ∧ ∀ c ∈ path, c.isOtherNumeral = false := by
  constructor
  · intro h
    refine ⟨?_, isOtherNumeral_of_isPlainPath h⟩
    obtain ⟨names, hne, rfl, hnames⟩ := h
    rw [isValid_iff_forall_pieces,
      Text.pieces_join hne fun s hs => dot_notMem_of_isPlainName (hnames s hs)]
    exact fun s hs => (isPlainName_iff.mp (hnames s hs)).1
  · rintro ⟨hvalid, hplain⟩
    refine ⟨Text.pieces dot path, Text.pieces_ne_nil dot path, (Text.join_pieces dot path).symm, ?_⟩
    intro s hs
    have hsegment := isValid_iff_forall_pieces.mp hvalid s hs
    exact isPlainName_iff.mpr ⟨hsegment, fun c hc => hplain c (Text.mem_of_mem_pieces hs hc)⟩

/-- A fraction alone is a symbol path, and it is no plain name. -/
theorem isValid_one_half : isValid ("½" : Text) = true ∧ ¬ IsPlainPath ("½" : Text) := by
  have hnumeral : (CodePoint.ofChar '½').isOtherNumeral = true := by decide
  refine ⟨by decide, fun h => ?_⟩
  have hplain := isOtherNumeral_of_isPlainPath h (CodePoint.ofChar '½') (by decide)
  rw [hnumeral] at hplain
  cases hplain

end JuliaLookup.SymbolPath
