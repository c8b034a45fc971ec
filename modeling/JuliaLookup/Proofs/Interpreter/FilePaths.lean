import JuliaLookup.FilePath
import JuliaLookup.Proofs.Text.Pieces

/-!
# Reading and printing paths

A path is read back from what it prints. A file in a directory prints as the directory, a slash and the name,
with two exceptions: a root ends in a slash already, and the working directory is not mentioned.
-/

namespace JuliaLookup.FilePath

open Text (pieces join)

variable {dir : FilePath} {root : Root} {name t : Text}

theorem below_ne_nil (home rest : Text) : below home rest ≠ [] := by
  unfold below
  split
  · simp
  · next hne => exact hne

/-! ### Reading -/

theorem takeWhile_eq_nil_of_head?_ne (h : t.head? ≠ some slash) : t.takeWhile (· = slash) = [] := by
  cases t with
  | nil => rfl
  | cons c rest =>
    have hc : c ≠ slash := by simpa using h
    simp [hc]

/-- Only the slashes at the beginning of a text say where the path begins. -/
theorem rootOf_text_append (root : Root) (h : t.head? ≠ some slash) : Root.of (root.text ++ t) = root := by
  have htake := takeWhile_eq_nil_of_head?_ne h
  cases root <;> simp [Root.of, Root.text, htake]

theorem not_isPart_nil : ¬ IsPart [] := fun h => h.1 rfl

/-- The slashes at the beginning are no parts. -/
theorem parts_of_text_append : (of (root.text ++ t)).parts = (of t).parts := by
  cases root <;> simp [of, Root.text, pieces, not_isPart_nil]

theorem parts_of_join {parts : List Text} (hne : parts ≠ []) (h : ∀ part ∈ parts, IsPart part) :
    (of (join [slash] parts)).parts = parts := by
  have hpieces : pieces slash (join [slash] parts) = parts :=
    Text.pieces_join hne fun part hpart => (h part hpart).2.2
  show (pieces slash (join [slash] parts)).filter _ = parts
  rw [hpieces, List.filter_eq_self]
  simpa using h

theorem head?_ne_of_isPart (h : IsPart name) : name.head? ≠ some slash :=
  fun hhead => h.2.2 (List.mem_of_head? hhead)

/-- Parts are joined behind the first one of them. -/
theorem exists_join_eq_append {parts : List Text} (hne : parts ≠ []) (h : ∀ part ∈ parts, IsPart part) :
    ∃ part more, IsPart part ∧ join [slash] parts = part ++ more := by
  obtain ⟨part, rest, rfl⟩ := List.exists_cons_of_ne_nil hne
  obtain ⟨more, hjoin⟩ := Text.exists_join_cons [slash] part rest
  exact ⟨part, more, h part List.mem_cons_self, hjoin⟩

theorem head?_join_ne {parts : List Text} (hne : parts ≠ []) (h : ∀ part ∈ parts, IsPart part) :
    (join [slash] parts).head? ≠ some slash := by
  obtain ⟨part, more, hpart, hjoin⟩ := exists_join_eq_append hne h
  rw [hjoin, List.head?_append_of_ne_nil _ hpart.1]
  exact head?_ne_of_isPart hpart

/-! ### Printing -/

theorem print_of_parts_ne_nil (h : dir.parts ≠ []) :
    dir.print = dir.root.text ++ join [slash] dir.parts := by
  obtain ⟨part, more, hpart, hjoin⟩ := exists_join_eq_append h dir.isPart
  have hne : dir.root.text ++ join [slash] dir.parts ≠ [] := by
    rw [hjoin]
    exact List.append_ne_nil_of_right_ne_nil _ (List.append_ne_nil_of_left_ne_nil hpart.1 more)
  simp only [print, List.isEmpty_iff, if_neg hne]

theorem print_ne_nil (path : FilePath) : path.print ≠ [] := by
  unfold print
  dsimp only
  split
  · decide
  · next hne => exact fun h => hne (List.isEmpty_iff.mpr h)

/-- A path is read back from what it prints. -/
theorem of_print (path : FilePath) : of path.print = path := by
  by_cases h : path.parts = []
  · obtain ⟨root, parts, hparts⟩ := path
    obtain rfl : parts = [] := h
    cases root <;> rfl
  · rw [print_of_parts_ne_nil h]
    ext1
    · exact rootOf_text_append path.root (head?_join_ne h path.isPart)
    · rw [parts_of_text_append, parts_of_join h path.isPart]

example : (of "//b/./c///").print = "//b/c" := by decide

/-- Only a root ends in a slash. -/
theorem getLast?_print_ne (h : dir.parts ≠ []) : dir.print.getLast? ≠ some slash := by
  obtain ⟨before, part, hparts⟩ := (List.eq_nil_or_concat dir.parts).resolve_left h
  obtain ⟨more, hmore⟩ := Text.exists_join_concat [slash] before part
  obtain ⟨hne, -, hslash⟩ : IsPart part := dir.isPart part (by simp [hparts])
  rw [print_of_parts_ne_nil h, hparts, List.concat_eq_append, hmore, ← List.append_assoc,
    List.getLast?_append_of_ne_nil _ hne]
  intro hlast
  exact hslash (List.mem_of_getLast? hlast)

theorem print_of_parts_eq_nil (h : dir.parts = []) :
    dir.print = if dir.root = .working then ("." : Text) else dir.root.text := by
  obtain ⟨root, parts, hparts⟩ := dir
  obtain rfl : parts = [] := h
  cases root <;> rfl

/-! ### Entering a directory -/

/-- A name that leads on is one part, and begins in the working directory. -/
theorem of_isPart (h : IsPart name) : (of name).root = .working ∧ (of name).parts = [name] := by
  constructor
  · exact rootOf_text_append .working (head?_ne_of_isPart h)
  · have hpieces : pieces slash name = [name] := Text.pieces_of_notMem h.2.2
    simp [of, hpieces, h]

theorem root_enter (h : IsPart name) : (dir.enter name).root = dir.root := by
  rw [enter, append, if_pos (of_isPart h).1]

theorem parts_enter (h : IsPart name) : (dir.enter name).parts = dir.parts ++ [name] := by
  rw [enter, append, if_pos (of_isPart h).1]
  exact congrArg (dir.parts ++ ·) (of_isPart h).2

theorem print_enter (h : IsPart name) :
    (dir.enter name).print = dir.root.text ++ join [slash] (dir.parts ++ [name]) := by
  have hne : (dir.enter name).parts ≠ [] := by
    rw [parts_enter h]
    simp
  rw [print_of_parts_ne_nil hne, root_enter h, parts_enter h]

/-- A file in a directory is printed behind the directory and a slash. A root has its slash already. -/
theorem print_enter_of_parts_eq_nil (h : IsPart name) (hdir : dir.parts = []) :
    (dir.enter name).print = dir.root.text ++ name := by
  rw [print_enter h, hdir]
  simp [join]

theorem print_enter_of_parts_ne_nil (h : IsPart name) (hdir : dir.parts ≠ []) :
    (dir.enter name).print = dir.print ++ slash :: name := by
  rw [print_enter h, Text.join_concat hdir, print_of_parts_ne_nil hdir, List.append_assoc]
  rfl

theorem print_enter_of_working (h : IsPart name) (hdir : dir.print = ".") :
    (dir.enter name).print = name := by
  have hworking : dir = of "." := by rw [← hdir, of_print]
  have hroot : (of ".").root = .working := rfl
  rw [hworking, print_enter_of_parts_eq_nil h rfl, hroot]
  rfl

theorem print_enter_of_slash (h : IsPart name) (hdir : dir.print.getLast? = some slash) :
    (dir.enter name).print = dir.print ++ name := by
  have hnil : dir.parts = [] := by
    by_contra hne
    exact getLast?_print_ne hne hdir
  rw [print_enter_of_parts_eq_nil h hnil]
  rw [print_of_parts_eq_nil hnil] at hdir ⊢
  split_ifs at hdir ⊢ with hworking
  · exact absurd hdir (by decide)
  · rfl

theorem print_enter_of_other (h : IsPart name) (hdot : dir.print ≠ ".")
    (hslash : dir.print.getLast? ≠ some slash) : (dir.enter name).print = dir.print ++ slash :: name := by
  refine print_enter_of_parts_ne_nil h fun hnil => ?_
  rw [print_of_parts_eq_nil hnil] at hdot hslash
  cases hroot : dir.root with
  | working => simp [hroot] at hdot
  | single => simp [hroot, Root.text] at hslash
  | double => simp [hroot, Root.text] at hslash

end JuliaLookup.FilePath
