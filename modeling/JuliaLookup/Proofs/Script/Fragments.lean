import JuliaLookup.Proofs.Text.Pieces
import JuliaLookup.Script.Template

/-!
# Fragments of a template

The fixed texts between the slots of a template, neighbours run together. Filling a template joins its
fragments by the filling, so a filled text holds what the fragments and the filling hold, and a code point
that the filling lacks stands in it as often as in the fragments. What the fixed texts of a template keep
to is decided piece by piece, without filling it.
-/

namespace JuliaLookup

namespace Text

variable {sep : Text} {c : CodePoint}

/-- What the separator lacks is counted in the parts alone. -/
theorem count_join {parts : List Text} (h : c ∉ sep) : (join sep parts).count c = parts.flatten.count c := by
  induction parts with
  | nil => rfl
  | cons a rest ih =>
    cases rest with
    | nil => simp [join]
    | cons b rest =>
      rw [join_cons_cons, List.count_append, List.count_append, List.count_eq_zero_of_not_mem h, ih,
        Nat.zero_add, List.flatten_cons (l := a), List.count_append]

end Text

namespace Template

/-- Puts a fixed text before the first fragment. -/
def extend (t : Text) : List Text → List Text
  | [] => [t]
  | f :: rest => (t ++ f) :: rest

/-- The fixed texts before, between and after the slots. -/
def fragments : Template → List Text
  | [] => [[]]
  | .fixed t :: rest => extend t (fragments rest)
  | .slot :: rest => [] :: fragments rest

theorem extend_ne_nil (t : Text) (parts : List Text) : extend t parts ≠ [] := by
  cases parts <;> exact List.cons_ne_nil _ _

theorem fragments_ne_nil (template : Template) : template.fragments ≠ [] := by
  cases template with
  | nil => exact List.cons_ne_nil _ _
  | cons p rest =>
    cases p with
    | slot => exact List.cons_ne_nil _ _
    | fixed t => exact extend_ne_nil t _

theorem join_extend {filling t : Text} {parts : List Text} (h : parts ≠ []) :
    Text.join filling (extend t parts) = t ++ Text.join filling parts := by
  cases parts with
  | nil => exact absurd rfl h
  | cons f rest =>
    cases rest with
    | nil => simp [extend, Text.join]
    | cons g rest => rw [extend, Text.join_cons_cons, Text.join_cons_cons, List.append_assoc]

theorem join_nil_cons {filling : Text} {parts : List Text} (h : parts ≠ []) :
    Text.join filling ([] :: parts) = filling ++ Text.join filling parts := by
  cases parts with
  | nil => exact absurd rfl h
  | cons f rest => rw [Text.join_cons_cons, List.nil_append]

/-- A filled template is its fragments with the filling between them. -/
theorem fill_eq_join (template : Template) (filling : Text) :
    template.fill filling = Text.join filling template.fragments := by
  induction template with
  | nil => rfl
  | cons p rest ih =>
    cases p with
    | fixed t => rw [fill_cons, fillPiece, fragments, join_extend (fragments_ne_nil rest), ih]
    | slot => rw [fill_cons, fillPiece, fragments, join_nil_cons (fragments_ne_nil rest), ih]

theorem length_extend (t : Text) {parts : List Text} (h : parts ≠ []) :
    (extend t parts).length = parts.length := by
  cases parts with
  | nil => exact absurd rfl h
  | cons f rest => rfl

/-- There is one fragment more than there are slots. -/
theorem length_fragments (template : Template) :
    template.fragments.length = template.count .slot + 1 := by
  induction template with
  | nil => rfl
  | cons p rest ih =>
    cases p with
    | fixed t =>
      have hne : Piece.fixed t ≠ .slot := by simp
      rw [fragments, length_extend t (fragments_ne_nil rest), ih, List.count_cons_of_ne hne]
    | slot => rw [fragments, List.length_cons, ih, List.count_cons_self]

/-- What texts measure, if it adds up, a filled template measures: its fixed texts, and the filling for every
slot. -/
theorem measure_fill (measure : Text → Nat) (hadd : ∀ s t, measure (s ++ t) = measure s + measure t)
    (template : Template) (filling : Text) : measure (template.fill filling) =
      measure (template.fill []) + template.count .slot * measure filling := by
  have hnil : measure [] = 0 := by
    have hempty := hadd [] []
    rw [List.append_nil] at hempty
    omega
  induction template with
  | nil => rw [fill_nil, fill_nil, List.count_nil, Nat.zero_mul, Nat.add_zero]
  | cons p rest ih =>
    rw [fill_cons, fill_cons, hadd, hadd, ih]
    cases p with
    | fixed t =>
      have hne : Piece.fixed t ≠ .slot := by simp
      rw [List.count_cons_of_ne hne, fillPiece, fillPiece, Nat.add_assoc]
    | slot =>
      rw [List.count_cons_self, fillPiece, fillPiece, hnil, Nat.add_mul, Nat.one_mul]
      omega

/-! ### Classes of code points -/

/-- Every fixed text keeps to a class of code points. -/
def Keeps (p : CodePoint → Bool) (template : Template) : Prop :=
  ∀ t, .fixed t ∈ template → t.all p = true

variable {p : CodePoint → Bool} {template rest : Template}

theorem keeps_nil : Keeps p [] := nofun

theorem keeps_slot (hrest : Keeps p rest) : Keeps p (.slot :: rest) := by
  intro t ht
  rcases List.mem_cons.mp ht with hslot | ht
  · cases hslot
  · exact hrest t ht

theorem keeps_fixed {t : Text} (ht : t.all p = true) (hrest : Keeps p rest) :
    Keeps p (.fixed t :: rest) := by
  intro u hu
  rcases List.mem_cons.mp hu with hfixed | hu
  · cases hfixed
    exact ht
  · exact hrest u hu

/-- The case of a written text, which is checked character by character. -/
theorem keeps_written {cs : List Char} (hcs : (cs.all fun c => p (.ofChar c)) = true)
    (hrest : Keeps p rest) : Keeps p (.fixed (Text.ofString (String.ofList cs)) :: rest) := by
  refine keeps_fixed ?_ hrest
  rw [Text.ofString, String.toList_ofList, List.all_map]
  exact hcs

theorem keeps_append (hfirst : Keeps p template) (hsecond : Keeps p rest) :
    Keeps p (template ++ rest) := by
  intro t ht
  rcases List.mem_append.mp ht with ht | ht
  · exact hfirst t ht
  · exact hsecond t ht

theorem keeps_lines_nil : Keeps p (lines []) := nofun

theorem keeps_lines_cons {l : List Piece} {ls : List (List Piece)} (hend : p (.ofChar '\n') = true)
    (hl : Keeps p l) (hls : Keeps p (lines ls)) : Keeps p (lines (l :: ls)) := by
  have hline : Keeps p (l ++ [.fixed "\n"]) := by
    refine keeps_append hl (keeps_written ?_ keeps_nil)
    simpa using hend
  rw [lines, List.flatMap_cons]
  exact keeps_append hline hls

theorem Keeps.fragments (h : Keeps p template) : ∀ f ∈ template.fragments, f.all p = true := by
  induction template with
  | nil => simp [Template.fragments]
  | cons q rest ih =>
    have hrest := ih fun t ht => h t (List.mem_cons_of_mem q ht)
    cases q with
    | slot =>
      intro f hf
      rcases List.mem_cons.mp hf with rfl | hf
      · rfl
      · exact hrest f hf
    | fixed t =>
      have ht : t.all p = true := h t List.mem_cons_self
      rw [Template.fragments]
      cases hparts : Template.fragments rest with
      | nil => exact absurd hparts (fragments_ne_nil rest)
      | cons g others =>
        rw [hparts] at hrest
        intro f hf
        rcases List.mem_cons.mp hf with rfl | hf
        · rw [List.all_append, ht, hrest g List.mem_cons_self]
          rfl
        · exact hrest f (List.mem_cons_of_mem g hf)

end Template

end JuliaLookup
