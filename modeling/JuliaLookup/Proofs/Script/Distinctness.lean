import JuliaLookup.Proofs.Script.Imports

/-!
# Scripts tell their questions

From the text of a script the question behind it can be told: the import is cut off, the program below it
tells the view, and the filling of its slots is the path. So scripts with one text answer one question
(`Query.text_eq_iff`), and questions are the same only if tools, paths and what the options come to are.
Main statement: `Query.build_text_eq_iff`.
-/

namespace JuliaLookup

theorem StringLiteral.write_injective : Function.Injective StringLiteral.write := by
  intro v w h
  have hread := StringLiteral.read_write v []
  rw [h, StringLiteral.read_write] at hread
  exact (StringLiteral.Reading.closed.inj hread).1.symm

/-! ### Views -/

namespace View

/-- The tool that shows a view. -/
def tool : View → Tool
  | members _ => .listPackage
  | source => .getSource
  | _ => .getDoc

theorem ofDetail_injective : Function.Injective ofDetail := by
  intro level level' h
  cases level <;> cases level' <;> first | rfl | cases h

end View

namespace Tool

variable {t : Tool} {level level' : Detail} {all all' : Bool}

theorem tool_view (h : t ≠ .exploreProject) : (t.view level all).tool = t := by
  cases t with
  | getDoc => cases all <;> cases level <;> rfl
  | listPackage => rfl
  | exploreProject => exact absurd rfl h
  | getSource => rfl

/-- What is not exported is shown at every level of detail alike. -/
theorem view_getDoc_eq_iff : getDoc.view level all = getDoc.view level' all' ↔
    all = all' ∧ (all = false → level = level') := by
  cases all <;> cases all'
  · simpa [view] using View.ofDetail_injective.eq_iff
  · cases level <;> simp [view, View.ofDetail]
  · cases level' <;> simp [view, View.ofDetail]
  · simp [view]

theorem view_listPackage_eq_iff : listPackage.view level all = listPackage.view level' all' ↔ all = all' := by
  simp [view]

end Tool

namespace Query

variable {tool tool' : Tool} {operation operation' : Value} {path path' : Text}
  {options options' : Entries} {q q' : Query} {s s' : Script}

/-! ### Texts -/

/-- Where no program begins as an import does, the import is told from what is below it. -/
theorem importLine_append_inj {first second : Option Text} {body body' : Text}
    (hfirst : ∀ package, first = some package → lineFeed ∉ package)
    (hsecond : ∀ package, second = some package → lineFeed ∉ package)
    (hbody : ¬ ("import " : Text) <+: body) (hbody' : ¬ ("import " : Text) <+: body')
    (h : importLine first ++ body = importLine second ++ body') : first = second ∧ body = body' := by
  cases first with
  | none =>
    cases second with
    | none => exact ⟨rfl, h⟩
    | some package =>
      rw [importLine, List.nil_append] at h
      rw [h] at hbody
      exact absurd (import_prefix_importLine package body') hbody
  | some package =>
    cases second with
    | none =>
      rw [importLine.eq_def none, List.nil_append] at h
      rw [← h] at hbody'
      exact absurd (import_prefix_importLine package body) hbody'
    | some package' =>
      have hpieces := congrArg (Text.pieces lineFeed) h
      rw [pieces_importLine (hfirst package rfl), pieces_importLine (hsecond package' rfl)] at hpieces
      obtain ⟨hline, hbelow⟩ := List.cons.inj hpieces
      refine ⟨congrArg some (List.append_cancel_left hline), ?_⟩
      rw [← Text.join_pieces lineFeed body, hbelow, Text.join_pieces]

theorem lineFeed_notMem_of_package (h : of tool path options = .ok q) :
    ∀ package, q.script.package = some package → lineFeed ∉ package := by
  intro package hpackage
  rw [package_script h] at hpackage
  obtain ⟨-, rfl, -⟩ := Tool.eq_head_of_package? hpackage
  exact SymbolPath.lineFeed_notMem (SymbolPath.isValid_head (isValid_of_package? h hpackage))

/-- A program tells whether it is about a symbol, with the view and the path, or else the directory. -/
theorem eq_of_program_eq (h : of tool path options = .ok q) (h' : of tool' path' options' = .ok q')
    (hprogram : q.template.fill q.filling = q'.template.fill q'.filling) : q = q' := by
  rcases of_eq_ok_cases h with ⟨-, rfl⟩ | ⟨htool, -, level, -, rfl⟩
  · rcases of_eq_ok_cases h' with ⟨-, rfl⟩ | ⟨-, -, level', -, rfl⟩
    · have hslot : Piece.slot ∈ Catalog.project := by decide
      have hwrite := Template.fill_injective hslot hprogram
      rw [StringLiteral.write_injective hwrite]
    · exact absurd hprogram ((View.apart_project _).symm.fill_ne _ _)
  · rcases of_eq_ok_cases h' with ⟨-, rfl⟩ | ⟨htool', -, level', -, rfl⟩
    · exact absurd hprogram ((View.apart_project _).fill_ne _ _)
    · by_cases hview : tool.view level (wantsUnexported options) =
          tool'.view level' (wantsUnexported options')
      · -- one view is shown by one tool, so the fillings are paths of the same tool
        have hsame := congrArg View.tool hview
        rw [Tool.tool_view htool, Tool.tool_view htool'] at hsame
        subst hsame
        rw [← hview] at hprogram ⊢
        have hpath : path = path' := Template.fill_injective (View.slot_mem _) hprogram
        rw [hpath]
      · exact absurd hprogram ((View.apart hview).fill_ne _ _)

/-- Scripts with one text answer one question. -/
theorem text_eq_iff (h : of tool path options = .ok q) (h' : of tool' path' options' = .ok q') :
    q.script.text = q'.script.text ↔ q = q' := by
  constructor
  · intro htext
    rw [text_script, text_script q'] at htext
    exact eq_of_program_eq h h' (importLine_append_inj (lineFeed_notMem_of_package h)
      (lineFeed_notMem_of_package h') q.not_import_prefix q'.not_import_prefix htext).2
  · rintro rfl
    rfl

/-! ### Questions -/

/-- One question is asked by one tool about one path, and options may differ only where the tool does not
read them. -/
theorem eq_iff_of_eq_ok (h : of tool path options = .ok q) (h' : of tool' path' options' = .ok q') :
    q = q' ↔ tool = tool' ∧ path = path' ∧
      (tool = .getDoc → wantsUnexported options = wantsUnexported options' ∧
        (wantsUnexported options = false → detail options = detail options')) ∧
      (tool = .listPackage → wantsUnexported options = wantsUnexported options') := by
  rcases of_eq_ok_cases h with ⟨rfl, rfl⟩ | ⟨htool, -, level, hlevel, rfl⟩
  · rcases of_eq_ok_cases h' with ⟨rfl, rfl⟩ | ⟨htool', -, level', -, rfl⟩
    · simp
    · simp [htool'.symm]
  · rcases of_eq_ok_cases h' with ⟨rfl, rfl⟩ | ⟨htool', -, level', hlevel', rfl⟩
    · simp [htool]
    · rw [symbol.injEq]
      constructor
      · rintro ⟨rfl, hview, rfl⟩
        refine ⟨rfl, rfl, ?_, ?_⟩
        · rintro rfl
          rw [hlevel rfl, hlevel' rfl]
          obtain ⟨hall, hdetail⟩ := Tool.view_getDoc_eq_iff.mp hview
          exact ⟨hall, fun hno => congrArg Except.ok (hdetail hno)⟩
        · rintro rfl
          exact Tool.view_listPackage_eq_iff.mp hview
      · rintro ⟨rfl, rfl, hdoc, hlist⟩
        refine ⟨rfl, ?_, rfl⟩
        cases tool with
        | getDoc =>
          rw [hlevel rfl, hlevel' rfl] at hdoc
          obtain ⟨hall, hdetail⟩ := hdoc rfl
          exact Tool.view_getDoc_eq_iff.mpr ⟨hall, fun hno => Except.ok.inj (hdetail hno)⟩
        | listPackage => exact Tool.view_listPackage_eq_iff.mpr (hlist rfl)
        | exploreProject => exact absurd rfl htool
        | getSource => rfl

/-- Two scripts have one text if and only if they come from one operation on one path, and the options come
to the same: for documentation the wish for what is not exported, and without it the level of detail; for
the members of a package that wish alone; otherwise nothing. -/
theorem build_text_eq_iff (h : build operation path options = .ok s)
    (h' : build operation' path' options' = .ok s') :
    s.text = s'.text ↔ operation = operation' ∧ path = path' ∧
      (operation = .str Tool.getDoc.name → wantsUnexported options = wantsUnexported options' ∧
        (wantsUnexported options = false → detail options = detail options')) ∧
      (operation = .str Tool.listPackage.name →
        wantsUnexported options = wantsUnexported options') := by
  obtain ⟨tool, q, rfl, hq, rfl⟩ := build_eq_ok_iff.mp h
  obtain ⟨tool', q', rfl, hq', rfl⟩ := build_eq_ok_iff.mp h'
  have hname : ∀ t t' : Tool, Value.str t.name = .str t'.name ↔ t = t' := fun t t' =>
    ⟨fun heq => Tool.name_injective (Value.str.inj heq), fun heq => by rw [heq]⟩
  simp only [hname]
  rw [text_eq_iff hq hq', eq_iff_of_eq_ok hq hq']

/-- With what is not exported the level of detail makes no difference, and without it it does. -/
theorem build_text_eq_of_unexported :
    (∃ s s', build "get-doc" "Base" [("include_unexported", true)] = .ok s ∧
      build "get-doc" "Base" [("detail_level", "all"), ("include_unexported", true)] = .ok s' ∧
        s.text = s'.text) ∧
    ∃ s s', build "get-doc" "Base" [] = .ok s ∧
      build "get-doc" "Base" [("detail_level", "all")] = .ok s' ∧ s.text ≠ s'.text := by
  have hunexported : build "get-doc" "Base" [("include_unexported", true)] =
      .ok (symbol .getDoc .unexported "Base").script := rfl
  have hall : build "get-doc" "Base" [("detail_level", "all"), ("include_unexported", true)] =
      .ok (symbol .getDoc .unexported "Base").script := rfl
  have hfull : build "get-doc" "Base" [] = .ok (symbol .getDoc .documentation "Base").script := rfl
  have hevery : build "get-doc" "Base" [("detail_level", "all")] =
      .ok (symbol .getDoc .everything "Base").script := rfl
  refine ⟨⟨_, _, hunexported, hall, ?_⟩, _, _, hfull, hevery, ?_⟩
  · exact (build_text_eq_iff hunexported hall).mpr ⟨rfl, rfl, fun _ => ⟨rfl, nofun⟩, nofun⟩
  · intro htext
    have hdetail := ((build_text_eq_iff hfull hevery).mp htext).2.2.1 rfl
    cases hdetail.2 rfl

end Query

end JuliaLookup
