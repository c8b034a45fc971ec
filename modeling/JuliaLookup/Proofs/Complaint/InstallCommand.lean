import JuliaLookup.Proofs.Complaint.FirstMatch
import JuliaLookup.Proofs.Script.Imports
import JuliaLookup.Proofs.Text.ShellWords

/-!
# The command that installs a package

The command shown for a missing package quotes the project and puts the name into a program between single
marks as it is. That is safe if no name can end the program: names heard in error output are word characters,
and names taken from scripts are first segments of symbol paths. Main statement: `ofStderr_install_command`,
by which a shell reads the words that are meant.
-/

namespace JuliaLookup

/-- Some script imports the package. -/
def Query.Imports (package : Text) : Prop :=
  ∃ operation path options s, build operation path options = .ok s ∧ s.package = some package

namespace Complaint

variable {project package : Option Text} {stderr name : Text}

/-! ### Names -/

/-- A package that is imported is named by points of a symbol path. -/
theorem isPathPoint_of_imports (h : Query.Imports name) : ∀ c ∈ name, SymbolPath.isPathPoint c = true := by
  obtain ⟨operation, path, options, s, hs, hpackage⟩ := h
  obtain ⟨tool, q, -, hq, rfl⟩ := Query.build_eq_ok_iff.mp hs
  rw [Query.package_script hq] at hpackage
  obtain ⟨-, rfl, -⟩ := Tool.eq_head_of_package? hpackage
  have hvalid := SymbolPath.isValid_head (Query.isValid_of_package? hq hpackage)
  intro c hc
  exact SymbolPath.isPathPoint_of_mem hvalid hc

/-- No name under which a package is reported holds a single mark. -/
theorem mark_notMem_of_reported (hpackage : ∀ given, package = some given → given ≠ [] → Query.Imports given)
    (h : Reported package stderr name) : Shell.mark ∉ name := by
  intro hmark
  cases h with
  | given h named =>
    have hpoint := isPathPoint_of_imports (hpackage _ h named) _ hmark
    rw [show SymbolPath.isPathPoint Shell.mark = false by decide] at hpoint
    cases hpoint
  | heard h first =>
    obtain ⟨before, after, -, ⟨initial, opening, closing, rest, -, -, hname, -⟩, -⟩ := first
    have hword := hname.isWord _ hmark
    rw [show Shell.mark.isWord = false by decide] at hword
    cases hword
  | unheard => exact absurd hmark (by decide)

/-! ### Words -/

/-- What follows the flag is written as a line of its own: the program has to be quoted, and without a single
mark in it nothing in it changes. -/
theorem line_program (hname : Shell.mark ∉ name) :
    " -e 'using Pkg; Pkg.add(\"" ++ name ++ "\")'" =
      CodePoint.ofChar ' ' :: Shell.line ["-e", "using Pkg; Pkg.add(\"" ++ name ++ "\")"] := by
  have hquote : Shell.quote ("using Pkg; Pkg.add(\"" ++ name ++ "\")") =
      Shell.mark :: ("using Pkg; Pkg.add(\"" ++ name ++ "\")" ++ [Shell.mark]) := by
    refine Shell.quote_of_mem (c := CodePoint.ofChar ' ') ?_ (by decide) ?_
    · exact List.mem_append_left _ (List.mem_append_left _ (by decide))
    · have hbefore : Shell.mark ∉ ("using Pkg; Pkg.add(\"" : Text) := by decide
      have hafter : Shell.mark ∉ ("\")" : Text) := by decide
      simp [hbefore, hname, hafter]
  have hplain : Shell.quote "-e" = "-e" := by decide
  have hbefore : (" -e 'using Pkg; Pkg.add(\"" : Text) = CodePoint.ofChar ' ' ::
      ("-e" ++ (" " ++ (Shell.mark :: "using Pkg; Pkg.add(\""))) := by decide
  have hafter : ("\")'" : Text) = "\")" ++ [Shell.mark] := by decide
  rw [Shell.line, Text.join, List.map_cons, List.map_cons, List.map_nil, List.intercalate_cons_cons,
    List.intercalate_singleton, hplain, hquote, hbefore, hafter]
  simp only [List.append_assoc, List.cons_append]

/-- A shell reads the words that are meant. Only the project is quoted, glued to its flag. -/
theorem words?_installCommand (project : Option Text) (hname : Shell.mark ∉ name) :
    Shell.words? (installCommand project name) = some (installWords project name) := by
  have hjulia : ("julia" : Text) = Shell.quote "julia" := by decide
  rw [Shell.words?]
  cases project with
  | none =>
    have hcommand : installCommand none name = "julia" ++ (" -e 'using Pkg; Pkg.add(\"" ++ name ++ "\")'") := by
      simp only [installCommand, List.append_assoc, List.append_nil]
    rw [hcommand, line_program hname, hjulia, Shell.wordsFrom_gap_quote, Shell.wordsFrom_bare_line]
    rfl
  | some p =>
    have hflag : (" --project=" : Text) = CodePoint.ofChar ' ' :: Shell.quote "--project=" := by decide
    have hcommand : installCommand (some p) name = "julia" ++ (" --project=" ++ (Shell.quote p ++
        (" -e 'using Pkg; Pkg.add(\"" ++ name ++ "\")'"))) := by
      simp only [installCommand, List.append_assoc]
    rw [hcommand, line_program hname, hjulia, Shell.wordsFrom_gap_quote, hflag, List.cons_append,
      Shell.wordsFrom_bare_space, Shell.wordsFrom_gap_quote, Shell.wordsFrom_quote,
      Shell.wordsFrom_bare_line]
    rfl

end Complaint

namespace Failure

open Complaint in
/-- The command shown for a missing package is safe, whatever the error output and the project are: a shell
that reads it finds the words that are meant, with the name that is reported, and nothing left to expand. The
package is one that a script imports, unless none is given. -/
theorem ofStderr_install_command {package project diagnostics : Option Text} {stderr : Text}
    (hpackage : ∀ given, package = some given → given ≠ [] → Query.Imports given)
    (hcode : (ofStderr package project diagnostics stderr).code = .packageNotFound) :
    ∃ name command : Text, Reported package stderr name ∧
      (ofStderr package project diagnostics stderr).suggestion = some ("Install it with: " ++ command) ∧
      Shell.words? command = some (installWords (project.filter (!·.isEmpty)) name) := by
  have hsuggestion : (ofStderr package project diagnostics stderr).suggestion =
      (Complaint.of package stderr).suggestion (project.filter (!·.isEmpty)) := rfl
  have hkind : (Complaint.of package stderr).code = .packageNotFound := hcode
  obtain ⟨name, hname, hreported⟩ | hother | hother | hother := (hears_of package stderr).cases_code
  · rw [hsuggestion, hname]
    exact ⟨name, _, hreported, rfl, words?_installCommand _ (mark_notMem_of_reported hpackage hreported)⟩
  all_goals
    rw [hother] at hkind
    cases hkind

/-- A package that a script imports, and a project whose name a shell would cut and expand. -/
theorem ofStderr_install_command_quoted : ∃ command : Text,
    (ofStderr (some "Plots") (some "/tmp/it's $HOME") none "ERROR: could not load package").suggestion =
        some ("Install it with: " ++ command) ∧
      Shell.words? command = some [("julia" : Text), ("--project=/tmp/it's $HOME" : Text), ("-e" : Text),
        ("using Pkg; Pkg.add(\"Plots\")" : Text)] := by
  have hpackage : ∀ given : Text, some ("Plots" : Text) = some given → given ≠ [] → Query.Imports given := by
    rintro given hgiven -
    obtain rfl := Option.some.inj hgiven
    exact ⟨"get-doc", "Plots.plot", [], _, rfl, rfl⟩
  obtain ⟨name, command, hname, hsuggestion, hwords⟩ := @ofStderr_install_command (some "Plots")
    (some "/tmp/it's $HOME") none "ERROR: could not load package" hpackage (by decide)
  refine ⟨command, hsuggestion, ?_⟩
  rw [hwords, Complaint.reported_iff.mp hname]
  decide

end Failure

end JuliaLookup
