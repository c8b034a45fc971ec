import JuliaLookup.Proofs.Julia.Segments
import JuliaLookup.Proofs.Request.Grammar
import JuliaLookup.Proofs.Script.Directory
import JuliaLookup.Proofs.Script.Openings

/-!
# What a script imports

A script carries the name of the package that it imports, for reports about a missing package. The name
and the text come from one path: the text begins with an import if and only if there is a name, the import
is of that name, and the name is the first segment of the path. Main statement: `Query.build_imports`.
-/

namespace JuliaLookup

open SymbolPath (dot head IsFirst)

namespace Tool

variable {tool : Tool} {path package : Text}

/-- Nothing is imported to describe a project, to look up a name without a point, or below a module that
is always there. -/
theorem package?_eq_none_iff : tool.package? path = none ↔
    tool = .exploreProject ∨ ((tool = .getDoc ∨ tool = .getSource) ∧ dot ∉ path) ∨
      head path ∈ rootModules := by
  have hdotted : SymbolPath.isDotted path = true ↔ dot ∈ path := List.contains_iff_mem
  by_cases hdot : dot ∈ path
  · cases tool <;> simp [package?, hdotted, hdot]
  · cases tool <;> simp [package?, hdotted, hdot]

theorem eq_head_of_package? (h : tool.package? path = some package) :
    tool ≠ .exploreProject ∧ package = head path ∧ package ∉ rootModules := by
  rw [package?] at h
  split_ifs at h with htool hplain hroot
  obtain rfl := Option.some.inj h
  exact ⟨htool, rfl, hroot⟩

end Tool

namespace Query

variable {tool : Tool} {operation : Value} {path package : Text} {options : Entries} {q : Query} {s : Script}

/-! ### Questions behind scripts -/

/-- A question is about a directory, or about a symbol path with a view that the options choose. -/
theorem of_eq_ok_cases (h : of tool path options = .ok q) :
    (tool = .exploreProject ∧ q = .project path) ∨
      (tool ≠ .exploreProject ∧ SymbolPath.isValid path = true ∧ ∃ level,
        (tool = .getDoc → detail options = .ok level) ∧
          q = .symbol tool (tool.view level (wantsUnexported options)) path) := by
  by_cases htool : tool = .exploreProject
  · subst htool
    exact .inl ⟨rfl, (of_exploreProject_eq_ok_iff.mp h).2.2⟩
  · exact .inr ⟨htool, (of_symbol_eq_ok_iff htool).mp h⟩

theorem build_eq_ok_iff : build operation path options = .ok s ↔
    ∃ tool q, operation = .str tool.name ∧ of tool path options = .ok q ∧ q.script = s := by
  rw [build, map_eq_ok_iff]
  constructor
  · rintro ⟨q, hq, hs⟩
    rw [ofOperation] at hq
    cases htool : Tool.ofValue? operation with
    | none =>
      rw [htool] at hq
      cases hq
    | some tool =>
      rw [htool] at hq
      exact ⟨tool, q, Tool.ofValue?_eq_some_iff.mp htool, hq, hs⟩
  · rintro ⟨tool, q, hoperation, hq, hs⟩
    refine ⟨q, ?_, hs⟩
    rw [ofOperation, Tool.ofValue?_eq_some_iff.mpr hoperation]
    exact hq

theorem package_script (h : of tool path options = .ok q) : q.script.package = tool.package? path := by
  rcases of_eq_ok_cases h with ⟨rfl, rfl⟩ | ⟨-, -, level, -, rfl⟩
  · exact (Tool.package?_eq_none_iff.mpr (.inl rfl)).symm
  · rfl

/-- A path with a package is a symbol path. -/
theorem isValid_of_package? (h : of tool path options = .ok q) (hpackage : tool.package? path = some package) :
    SymbolPath.isValid path = true := by
  rcases of_eq_ok_cases h with ⟨hexplore, -⟩ | ⟨-, hvalid, -⟩
  · exact absurd hexplore (Tool.eq_head_of_package? hpackage).1
  · exact hvalid

/-! ### The first line -/

/-- The line that imports a package is a line by itself. -/
theorem pieces_importLine (h : lineFeed ∉ package) (body : Text) :
    Text.pieces lineFeed (importLine (some package) ++ body) =
      (("import " : Text) ++ package) :: Text.pieces lineFeed body := by
  have hline : lineFeed ∉ ("import " : Text) ++ package := by
    rw [List.mem_append, not_or]
    exact ⟨by decide, h⟩
  rw [← Text.pieces_append_cons hline, importLine, List.append_assoc (_ ++ _)]
  rfl

/-- The package of a script is the one that its text imports, in the first line and by the first segment of
the path. A script is without a package if it describes a project, if a name without a point is looked up,
and if the path begins with a module that is always there. -/
theorem build_imports (h : build operation path options = .ok s) :
    ∃ tool : Tool, operation = .str tool.name ∧ s.package = tool.package? path ∧
      (("import " : Text) <+: s.text ↔ s.package ≠ none) ∧
      (∀ package, s.package = some package →
        (Text.pieces lineFeed s.text).head? = some (("import " : Text) ++ package) ∧
          IsFirst package path ∧ SymbolPath.isValid package = true ∧ dot ∉ package ∧
          package ∉ (["Base", "Core", "Main"] : List Text)) ∧
      (s.package = none ↔ tool = .exploreProject ∨
        ((tool = .getDoc ∨ tool = .getSource) ∧ dot ∉ path) ∨
        ∃ root ∈ (["Base", "Core", "Main"] : List Text), IsFirst root path) := by
  obtain ⟨tool, q, hoperation, hq, rfl⟩ := build_eq_ok_iff.mp h
  have hpackage := package_script hq
  refine ⟨tool, hoperation, hpackage, q.import_prefix_iff, fun package hsome => ?_, ?_⟩
  · have hsome' := hpackage.symm.trans hsome
    obtain ⟨-, rfl, hroot⟩ := Tool.eq_head_of_package? hsome'
    have hvalid := SymbolPath.isValid_head (isValid_of_package? hq hsome')
    have hfirst := SymbolPath.isFirst_head path
    refine ⟨?_, hfirst, hvalid, hfirst.1, hroot⟩
    rw [text_script, hsome, pieces_importLine (SymbolPath.lineFeed_notMem hvalid)]
    rfl
  · rw [hpackage, Tool.package?_eq_none_iff]
    simp only [SymbolPath.isFirst_iff, exists_eq_right]
    rfl

/-- A name from a package. -/
theorem build_imports_plot : build "get-doc" "Plots.plot" [] =
      .ok (symbol .getDoc .documentation "Plots.plot").script ∧
    (Text.pieces lineFeed (symbol .getDoc .documentation "Plots.plot").script.text).head? =
      some "import Plots" := by
  have h : build "get-doc" "Plots.plot" [] =
      .ok (symbol .getDoc .documentation "Plots.plot").script := rfl
  obtain ⟨tool, -, -, -, hline, -⟩ := build_imports h
  exact ⟨h, (hline "Plots" rfl).1⟩

end Query

end JuliaLookup
