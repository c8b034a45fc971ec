import JuliaLookup.Proofs.Request.Grammar
import JuliaLookup.Proofs.Text.Blanks

/-!
# Requests asked for again

A request can be asked for in its own words: its path and its options, each under its name. A call that does
so is taken, and makes the same request, since a tidy path has nothing more to tidy and every option is in
the form that its parameter keeps. Main statement: `ofCall_own_words`.
-/

namespace JuliaLookup

variable {tool : Tool} {level : Detail} {all : Bool} {t path : Text}

theorem Parameter.takes_setting (p : Parameter) (level : Detail) (all : Bool) :
    p.Takes (p.setting level all) (p.setting level all) := by
  cases p with
  | detailLevel => exact .level level
  | includeUnexported => exact .flag (.bool all)

namespace Tool

theorem names_options (tool : Tool) (level : Detail) (all : Bool) :
    (tool.options level all).names = tool.parameters.map Parameter.name := by
  rw [Entries.names, options, List.map_map]
  rfl

theorem nodup_argumentNames (tool : Tool) : tool.argumentNames.Nodup := by
  cases tool <;> decide

theorem get?_options {p : Parameter} (hp : p ∈ tool.parameters) :
    (tool.options level all).get? p.name = some (p.setting level all) := by
  have hdistinct : (tool.options level all).names.Nodup := by
    rw [names_options]
    exact (List.nodup_cons.mp tool.nodup_argumentNames).2
  exact Entries.get?_eq_some_of_mem hdistinct (List.mem_map_of_mem hp)

/-! ### A path with options -/

/-- A path and the options of a tool, as the arguments of a call. -/
def words (tool : Tool) (path : Text) (level : Detail) (all : Bool) : Entries :=
  (pathName, .str path) :: tool.options level all

@[simp] theorem names_words : (tool.words path level all).names = tool.argumentNames := by
  rw [words, Entries.names, List.map_cons, argumentNames, ← tool.names_options level all, Entries.names]

@[simp] theorem get?_words_pathName : (tool.words path level all).get? pathName = some (.str path) :=
  Entries.get?_cons_self

/-- Every parameter settles on the option that is said. -/
theorem settle_words {p : Parameter} (hp : p ∈ tool.parameters) :
    p.settle (tool.words path level all) = .ok (p.setting level all) := by
  rw [words, Parameter.settle_cons_of_ne p.name_ne_pathName.symm, Parameter.settle_eq_ok_iff]
  exact .inl ⟨_, get?_options hp, p.takes_setting level all⟩

/-- A tidy path stays as it is. -/
theorem tidyPath_of_eq_ok (h : tool.tidyPath t = .ok path) : tool.tidyPath path = .ok path := by
  obtain ⟨rfl, hne, hlength, hclean, hadmits⟩ := tidyPath_eq_ok_iff.mp h
  exact tidyPath_eq_ok_iff.mpr ⟨(Text.strip_strip t).symm, hne, hlength, hclean, hadmits⟩

end Tool

namespace Request

variable {r : Request} {operation : Value} {given : Entries}

/-- A request in its own words. -/
def ownWords (r : Request) : Entries := (Tool.pathName, .str r.path) :: r.options

/-- What is read off any arguments can be read off its own words. -/
theorem Reads.ownWords (h : r.Reads given) :
    r.ownWords.names = r.tool.argumentNames ∧ r.Reads r.ownWords := by
  obtain ⟨-, ⟨t, -, htidy⟩, level, all, -, hoptions⟩ := h
  have hwords : r.ownWords = r.tool.words r.path level all := by
    rw [Request.ownWords, hoptions, Tool.words]
  rw [hwords]
  refine ⟨Tool.names_words, ?_, ?_, ?_⟩
  · rw [Tool.names_words]
    exact List.Subset.refl _
  · exact ⟨r.path, Tool.get?_words_pathName, Tool.tidyPath_of_eq_ok htidy⟩
  · exact ⟨level, all, fun p hp => Tool.settle_words hp, hoptions⟩

/-- Checking a call is done once and for all. Its request in its own words gives every declared name of the
tool once, and in whatever order they are put they are taken and make the request again. -/
theorem ofCall_own_words (h : ofCall operation given = .ok r) :
    r.ownWords.names = r.tool.argumentNames ∧ r.ownWords.names.Nodup ∧
      ∀ words, r.ownWords.Perm words → ofCall (.str r.tool.name) words = .ok r := by
  obtain ⟨-, hreads⟩ := ofCall_eq_ok_iff.mp h
  obtain ⟨hnames, hown⟩ := hreads.ownWords
  have hdistinct : r.ownWords.names.Nodup := hnames ▸ r.tool.nodup_argumentNames
  refine ⟨hnames, hdistinct, fun words hperm => ofCall_eq_ok_iff.mpr ⟨Tool.named?_name r.tool, ?_⟩⟩
  exact (reads_iff_of_rephrased (.reorder hdistinct hperm)).mp hown

/-- A path between blanks and a truth value spelled in its own way, with a level left out. -/
theorem ofCall_own_words_of_padded : ∃ r,
    ofCall "get-doc" [("include_unexported", "yEs"), ("path", "\u2003Base.sort!\n")] = .ok r ∧
      ofCall "get-doc" [("path", "Base.sort!"), ("detail_level", "full"),
        ("include_unexported", true)] = .ok r := by
  let r : Request :=
    { tool := .getDoc, path := "Base.sort!", options := Tool.getDoc.options .full true }
  have hr : ofCall "get-doc" [("include_unexported", "yEs"), ("path", "\u2003Base.sort!\n")] = .ok r := rfl
  obtain ⟨-, -, hwords⟩ := ofCall_own_words hr
  exact ⟨r, hr, hwords r.ownWords (List.Perm.refl _)⟩

end Request

end JuliaLookup
