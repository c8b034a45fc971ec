import JuliaLookup.Proofs.Check.Passing
import JuliaLookup.Proofs.Julia.PathPoints
import JuliaLookup.Proofs.Script.Fragments
import JuliaLookup.Script

/-!
# Splicing symbol paths

A script about a symbol is made of fragments that are known beforehand, with the path between them. The
path is spliced in as it is, so what keeps it from becoming code of its own is its grammar: it cannot end
the line, the string or the expression that it is put into.
-/

namespace JuliaLookup

/-- The end of a line. -/
def lineFeed : CodePoint := CodePoint.ofChar '\n'

/-- A symbol path stays on one line. -/
theorem SymbolPath.lineFeed_notMem {path : Text} (h : isValid path = true) : lineFeed ∉ path :=
  notMem_of_isPathPoint h (by decide)

/-- The marks around the name of a slot, left behind where a slot is not filled. -/
def braces : Text := "\x7b\x7d"

/-- The view that a tool gives at a level of detail, with or without what is not exported. -/
def Tool.view (tool : Tool) (level : Detail) (all : Bool) : View :=
  match tool with
  | .getDoc => if all then .unexported else .ofDetail level
  | .listPackage => .members all
  | _ => .source

/-- The fixed parts of a tool's scripts at a level of detail. -/
def Tool.fragments (tool : Tool) (level : Detail) (all : Bool) : List Text :=
  (tool.view level all).template.fragments

namespace Query

variable {tool : Tool} {path : Text} {options : Entries} {operation : Value}

/-- The script of the operation with a name, if the operation, the path and the options are sound. -/
def build (operation : Value) (path : Text) (options : Entries) : Except Refusal Script :=
  (ofOperation operation path options).map script

/-- Options choose a view by the level of detail, which only documentation asks for, and by the wish for
what is not exported. -/
theorem view_eq_ok_iff {v : View} : view tool options = .ok v ↔
    ∃ level, (tool = .getDoc → detail options = .ok level) ∧
      v = tool.view level (wantsUnexported options) := by
  by_cases htool : tool = .getDoc
  · subst htool
    rw [view, map_eq_ok_iff]
    constructor
    · rintro ⟨level, hlevel, rfl⟩
      exact ⟨level, fun _ => hlevel, rfl⟩
    · rintro ⟨level, hlevel, rfl⟩
      exact ⟨level, hlevel rfl, rfl⟩
  · -- any level will do where none is read
    have hview : ∀ level, view tool options = .ok (tool.view level (wantsUnexported options)) := by
      intro level
      cases tool with
      | getDoc => exact absurd rfl htool
      | listPackage => rfl
      | exploreProject => rfl
      | getSource => rfl
    constructor
    · intro h
      rw [hview .full] at h
      exact ⟨.full, fun hdoc => absurd hdoc htool, (Except.ok.inj h).symm⟩
    · rintro ⟨level, -, rfl⟩
      exact hview level

theorem of_symbol_eq_ok_iff (htool : tool ≠ .exploreProject) {q : Query} :
    of tool path options = .ok q ↔ SymbolPath.isValid path = true ∧
      ∃ level, (tool = .getDoc → detail options = .ok level) ∧
        q = .symbol tool (tool.view level (wantsUnexported options)) path := by
  rw [of, if_neg htool]
  split
  case isTrue hvalid =>
    rw [map_eq_ok_iff]
    constructor
    · rintro ⟨v, hv, rfl⟩
      obtain ⟨level, hlevel, rfl⟩ := view_eq_ok_iff.mp hv
      exact ⟨hvalid, level, hlevel, rfl⟩
    · rintro ⟨-, level, hlevel, rfl⟩
      exact ⟨_, view_eq_ok_iff.mpr ⟨level, hlevel, rfl⟩, rfl⟩
  case isFalse hinvalid =>
    constructor
    · intro h
      cases h
    · rintro ⟨hvalid, -⟩
      exact absurd hvalid hinvalid

end Query

/-! ### Fixed texts -/

/-- What programs are written in: printable ASCII without braces, line feeds, and the arrow at a line. -/
def programPoints : RangeTable :=
  [(0x0A, 0x0A), (0x20, 0x7A), (0x7C, 0x7C), (0x7E, 0x7E), (0x279C, 0x279C)]

def CodePoint.isProgramPoint (c : CodePoint) : Bool := programPoints.holds c.val

open Template in
/-- Every program is written in program points, line by line and piece by piece. -/
theorem View.keeps_programPoints (v : View) : v.template.Keeps CodePoint.isProgramPoint := by
  have hend : CodePoint.isProgramPoint (.ofChar '\n') = true := by decide
  rcases v with _ | _ | _ | _ | (_ | _) | _
  all_goals
    simp only [View.template, Catalog.signatures, Catalog.documentation, Catalog.everything,
      Catalog.unexported, Catalog.members, Catalog.source, Catalog.findMethodEnd,
      Catalog.showMethodInfo, if_true, if_false, Bool.false_eq_true]
    repeat' first
      | exact keeps_nil
      | exact keeps_lines_nil
      | refine keeps_append ?_ ?_
      | refine keeps_lines_cons hend ?_ ?_
      | refine keeps_slot ?_
      | refine keeps_written (by decide) ?_

theorem notMem_braces {t : Text} (ht : t.all CodePoint.isProgramPoint = true) {c : CodePoint}
    (hc : c ∈ braces) : c ∉ t := by
  have hout : (braces.all fun c => !c.isProgramPoint) = true := by decide
  intro hmem
  have hno := List.all_eq_true.mp hout c hc
  rw [List.all_eq_true.mp ht c hmem] at hno
  cases hno

/-- Fragments come with every slot filled. -/
theorem View.notMem_fragments (v : View) {f : Text} (hf : f ∈ v.template.fragments)
    {c : CodePoint} (hc : c ∈ braces) : c ∉ f :=
  notMem_braces (v.keeps_programPoints.fragments f hf) hc

/-- A script that puts a path between fragments and adds nothing but a line that imports its first
segment. -/
structure Script.Splices (s : Script) (path : Text) (fragments : List Text) : Prop where
  text_eq : s.text = Text.join path fragments ∨
    s.text = ("import " : Text) ++ SymbolPath.head path ++ "\n" ++ Text.join path fragments
  /-- The fragments alone tell how many lines there are below the import. -/
  lines_eq : (Text.pieces lineFeed (Text.join path fragments)).length =
    (Text.pieces lineFeed fragments.flatten).length
  path_plain : ∀ c ∈ path, c.isBlank = false ∧ c ∉ juliaMarks
  slots_filled : ∀ c ∈ braces, c ∉ s.text

namespace Query

variable {tool : Tool} {path : Text}

theorem importLine_package (tool : Tool) (path : Text) :
    importLine (tool.package? path) = [] ∨
      importLine (tool.package? path) = ("import " : Text) ++ SymbolPath.head path ++ "\n" := by
  unfold Tool.package?
  split_ifs
  · exact .inl rfl
  · exact .inl rfl
  · exact .inl rfl
  · exact .inr rfl

theorem notMem_path (hvalid : SymbolPath.isValid path = true) {c : CodePoint} (hc : c ∈ braces) :
    c ∉ path := by
  have hall : braces.all (juliaMarks.contains ·) = true := by decide
  have hmarks : c ∈ juliaMarks := by simpa using List.all_eq_true.mp hall c hc
  intro hmem
  exact (SymbolPath.isPlain_of_isValid hvalid c hmem).2 hmarks

theorem notMem_importLine (hvalid : SymbolPath.isValid path = true) {c : CodePoint}
    (hc : c ∈ braces) : c ∉ importLine (tool.package? path) := by
  have hfixed : (braces.all fun c => !(("import " : Text) ++ "\n").contains c) = true := by decide
  have hnot := List.all_eq_true.mp hfixed c hc
  rcases importLine_package tool path with hline | hline
  · rw [hline]
    exact List.not_mem_nil
  · rw [hline]
    intro hmem
    simp only [List.mem_append] at hmem
    rcases hmem with (hmem | hmem) | hmem
    · simp [hmem] at hnot
    · exact notMem_path hvalid hc (SymbolPath.mem_of_mem_head hmem)
    · simp [hmem] at hnot

theorem splices_script (hvalid : SymbolPath.isValid path = true) (v : View) :
    (script (.symbol tool v path)).Splices path v.template.fragments := by
  have hplain := SymbolPath.isPlain_of_isValid hvalid
  have htext : (script (.symbol tool v path)).text =
      importLine (tool.package? path) ++ Text.join path v.template.fragments := by
    rw [← Template.fill_eq_join]
    rfl
  refine ⟨?_, ?_, hplain, ?_⟩
  · rcases importLine_package tool path with hline | hline
    · rw [htext, hline]
      exact .inl (List.nil_append _)
    · rw [htext, hline]
      exact .inr rfl
  · rw [Text.length_pieces, Text.length_pieces, Text.count_join (SymbolPath.lineFeed_notMem hvalid)]
  · intro c hc hmem
    rw [htext, List.mem_append] at hmem
    rcases hmem with hmem | hmem
    · exact notMem_importLine hvalid hc hmem
    · rcases Text.mem_join hmem with hpath | ⟨f, hf, hin⟩
      · exact notMem_path hvalid hc hpath
      · exact v.notMem_fragments hf hc hin

/-- Every script that an operation other than the one on directories writes splices its path between
fragments that the tool, the level of detail and the wish for what is not exported choose. A path outside
the grammar is refused as bad input, whatever the options are. -/
theorem build_splices {operation : Value} (path : Text) (options : Entries)
    (h : Tool.ofValue? operation ≠ some .exploreProject) :
    (∀ s, build operation path options = .ok s → ∃ tool level,
        Tool.ofValue? operation = some tool ∧
          (tool = .getDoc → detail options = .ok level) ∧
          s.Splices path (tool.fragments level (wantsUnexported options))) ∧
      (SymbolPath.isValid path = false → ∃ refusal, build operation path options = .error refusal ∧
        refusal.failure.code = .invalidInput) := by
  cases hop : Tool.ofValue? operation with
  | none =>
    have hbuild : build operation path options = .error (.unknownOperation operation) := by
      rw [build, ofOperation, hop]
      rfl
    rw [hbuild]
    exact ⟨nofun, fun _ => ⟨_, rfl, rfl⟩⟩
  | some tool =>
    have htool : tool ≠ .exploreProject := by
      rintro rfl
      exact h hop
    have hbuild : build operation path options = (of tool path options).map script := by
      rw [build, ofOperation, hop]
    rw [hbuild]
    constructor
    · intro s hs
      obtain ⟨q, hq, rfl⟩ := map_eq_ok_iff.mp hs
      obtain ⟨hvalid, level, hlevel, rfl⟩ := (of_symbol_eq_ok_iff htool).mp hq
      exact ⟨tool, level, rfl, hlevel, splices_script hvalid _⟩
    · intro hinvalid
      have hof : of tool path options = .error (.badPath path) := by
        rw [of, if_neg htool, if_neg (by simp [hinvalid])]
      exact ⟨.badPath path, by rw [hof]; rfl, rfl⟩

/-- A name from a package, and a name followed by a call. -/
theorem build_splices_norm : Tool.ofValue? "get-doc" ≠ some .exploreProject ∧
    (∃ s, build "get-doc" "LinearAlgebra.norm" [("include_unexported", true)] = .ok s ∧
      s.Splices "LinearAlgebra.norm" (Tool.getDoc.fragments .full true)) ∧
    ∃ refusal, build "get-doc" "norm); exit(" [] = .error refusal ∧
      refusal.failure.code = .invalidInput := by
  have h : Tool.ofValue? "get-doc" ≠ some .exploreProject := by decide
  refine ⟨h, ?_, (build_splices "norm); exit(" [] h).2 (by decide +kernel)⟩
  obtain ⟨tool, level, htool, hlevel, hs⟩ :=
    (build_splices "LinearAlgebra.norm" [("include_unexported", true)] h).1 _ rfl
  have hdoc : tool = .getDoc := (Option.some.inj htool).symm
  subst hdoc
  have hfull : level = .full := (Except.ok.inj (hlevel rfl)).symm
  subst hfull
  exact ⟨_, rfl, hs⟩

end Query

end JuliaLookup
