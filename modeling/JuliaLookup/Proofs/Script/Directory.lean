import JuliaLookup.Proofs.Julia.Escaping
import JuliaLookup.Proofs.Script.Splicing

/-!
# Directories as data

The script that describes a project holds the name of its directory once, as a string literal. Reading the
literal gives the name back whatever follows it, so no part of a name is read as code.
-/

namespace JuliaLookup.Query

open StringLiteral (write read escape mark)

/-- A project template has two fragments, and its scripts have the literal between them. -/
theorem fragments_project : ∃ before after, Catalog.project.fragments = [before, after] := by
  have hlength : Catalog.project.fragments.length = 2 := by
    rw [Template.length_fragments]
    rfl
  exact List.length_eq_two.mp hlength

theorem of_exploreProject_eq_ok_iff {path : Text} {options : Entries} {q : Query} :
    of .exploreProject path options = .ok q ↔
      path ≠ [] ∧ path.any CodePoint.isControl = false ∧ q = .project path := by
  rw [of, if_pos rfl]
  split
  case isTrue h =>
    constructor
    · intro hq
      cases hq
    · rintro ⟨hne, hcontrol, -⟩
      simp [hne, hcontrol] at h
  case isFalse h =>
    rw [Bool.or_eq_true, not_or] at h
    constructor
    · intro hq
      exact ⟨by simpa using h.1, by simpa using h.2, (Except.ok.inj hq).symm⟩
    · rintro ⟨-, -, rfl⟩
      rfl

/-- A literal is read back as the text that was written, up to its end and no further, and nothing in it
interpolates; it is written by three replacements. The script that describes a project is such a literal
between two fixed texts, for every directory that is not empty and holds no control. -/
theorem directory_is_data :
    (∀ v rest, write v = mark :: (escape v ++ [mark]) ∧ read (write v ++ rest) = .closed v rest) ∧
      ∃ before after, ∀ path options s,
        build (.str Tool.exploreProject.name) path options = .ok s ↔
          path ≠ [] ∧ path.any CodePoint.isControl = false ∧
            s = { text := before ++ write path ++ after } := by
  refine ⟨fun v rest => ⟨StringLiteral.write_eq_escape v, StringLiteral.read_write v rest⟩, ?_⟩
  obtain ⟨before, after, hfragments⟩ := fragments_project
  have hscript : ∀ path, (project path).script = { text := before ++ write path ++ after } := by
    intro path
    show ({ text := Catalog.project.fill (write path) } : Script) = _
    rw [Template.fill_eq_join, hfragments, Text.join_cons_cons, Text.join,
      List.intercalate_singleton, ← List.append_assoc]
  have htool : Tool.ofValue? (.str Tool.exploreProject.name) = some .exploreProject :=
    Tool.named?_name .exploreProject
  refine ⟨before, after, fun path options s => ?_⟩
  rw [build, ofOperation, htool]
  dsimp only
  rw [map_eq_ok_iff]
  constructor
  · rintro ⟨q, hq, rfl⟩
    obtain ⟨hne, hcontrol, rfl⟩ := of_exploreProject_eq_ok_iff.mp hq
    exact ⟨hne, hcontrol, hscript path⟩
  · rintro ⟨hne, hcontrol, rfl⟩
    exact ⟨_, of_exploreProject_eq_ok_iff.mpr ⟨hne, hcontrol, rfl⟩, hscript path⟩

end JuliaLookup.Query
