import JuliaLookup.Proofs.Julia.PathPoints
import JuliaLookup.Proofs.Request.Rephrasing
import JuliaLookup.Proofs.Text.Pieces

/-!
# Keys of requests

A key joins the name of the tool, the path and the options by colons, and nothing is escaped. A directory
may hold colons and more, so a key cannot be cut back into its parts without knowing the tool; but no name
of a tool holds a colon, and a directory is the last part of its key. Main statement: accepted calls share
a key exactly when they make the same request.
-/

namespace JuliaLookup

/-- What stands between the parts of a key. -/
def keySeparator : CodePoint := CodePoint.ofChar ':'

theorem Tool.separator_notMem_name (tool : Tool) : keySeparator ∉ tool.name := by
  cases tool <;> decide

namespace Parameter

variable {level level' : Detail} {all all' : Bool}

theorem separator_notMem_keyPart (p : Parameter) :
    keySeparator ∉ Request.keyPart (p.name, p.setting level all) := by
  cases p with
  | detailLevel =>
    show keySeparator ∉ Request.keyPart (detailLevel.name, .str level.name)
    cases level <;> decide
  | includeUnexported =>
    show keySeparator ∉ Request.keyPart (includeUnexported.name, .bool all)
    cases all <;> decide

/-- A part of a key tells the setting of its parameter. -/
theorem setting_eq_of_keyPart {p : Parameter}
    (h : Request.keyPart (p.name, p.setting level all) =
      Request.keyPart (p.name, p.setting level' all')) :
    p.setting level all = p.setting level' all' := by
  have hvalue : Request.keyValue (p.setting level all) = Request.keyValue (p.setting level' all') :=
    List.append_cancel_left h
  cases p with
  | detailLevel => exact congrArg Value.str hvalue
  | includeUnexported =>
    have htruth : all = all' := by
      have hvalue : Request.keyValue (.bool all) = Request.keyValue (.bool all') := hvalue
      revert hvalue
      cases all <;> cases all' <;> decide
    rw [htruth]
    rfl

end Parameter

namespace Tool

variable {level level' : Detail} {all all' : Bool}

/-- Parameters come in the order of their names. -/
theorem sorted_options (tool : Tool) : (tool.options level all).sorted = tool.options level all := by
  have hnames : tool.parameters.Pairwise fun p q => p.name ≤ q.name := by
    cases tool <;> decide
  refine List.mergeSort_of_pairwise ?_
  rw [options, List.pairwise_map]
  exact hnames.imp fun h => decide_eq_true h

/-- The parts of a key that tell the options tell them all. -/
theorem options_eq_of_keyParts {tool : Tool}
    (h : (tool.options level all).map Request.keyPart = (tool.options level' all').map Request.keyPart) :
    tool.options level all = tool.options level' all' := by
  rw [options, options, List.map_map, List.map_map, List.map_inj_left] at h
  refine List.map_congr_left fun p hp => ?_
  rw [Parameter.setting_eq_of_keyPart (h p hp)]

end Tool

namespace Request

variable {r r' : Request} {given given' : Entries}

/-- The parts of a key after the name of the tool. -/
def keyParts (r : Request) : List Text := r.path :: r.options.sorted.map keyPart

theorem keyParts_ne_nil (r : Request) : r.keyParts ≠ [] := List.cons_ne_nil _ _

theorem key_eq (r : Request) :
    r.key = r.tool.name ++ keySeparator :: Text.join [keySeparator] r.keyParts :=
  Text.join_cons_cons [keySeparator] r.tool.name r.path _

/-- The first part of a key tells the tool. -/
theorem tool_eq_of_key (h : r.key = r'.key) :
    r.tool = r'.tool ∧ Text.join [keySeparator] r.keyParts = Text.join [keySeparator] r'.keyParts := by
  rw [key_eq, key_eq] at h
  have hcut := congrArg (Text.pieces keySeparator) h
  rw [Text.pieces_append_cons r.tool.separator_notMem_name,
    Text.pieces_append_cons r'.tool.separator_notMem_name] at hcut
  have hname : r.tool.name = r'.tool.name := (List.cons.inj hcut).1
  rw [hname] at h
  exact ⟨Tool.name_injective hname, (List.cons.inj (List.append_cancel_left h)).2⟩

theorem Reads.admits (h : r.Reads given) : r.tool.Admits r.path := by
  obtain ⟨t, -, htidy⟩ := h.path_tidy
  exact (Tool.tidyPath_eq_ok_iff.mp htidy).2.2.2.2

/-- Parts of keys to tools that take symbol paths are free of the separator. -/
theorem Reads.separator_notMem (h : r.Reads given) (htool : r.tool ≠ .exploreProject) :
    ∀ part ∈ r.keyParts, keySeparator ∉ part := by
  obtain ⟨level, all, -, hopts⟩ := h.options_settled
  have hvalid : SymbolPath.isValid r.path = true := by
    have hadmits := h.admits
    rwa [Tool.Admits, if_neg htool] at hadmits
  intro part hpart
  rw [keyParts, hopts, Tool.sorted_options, Tool.options, List.map_map] at hpart
  rcases List.mem_cons.mp hpart with rfl | hpart
  · exact SymbolPath.notMem_of_isPathPoint hvalid (by decide +kernel)
  · obtain ⟨p, -, rfl⟩ := List.mem_map.mp hpart
    exact p.separator_notMem_keyPart

/-- Requests with one key are one request. -/
theorem Reads.eq_of_key (h : r.Reads given) (h' : r'.Reads given') (hkey : r.key = r'.key) :
    r = r' := by
  obtain ⟨htool, hjoin⟩ := tool_eq_of_key hkey
  obtain ⟨level, all, -, hopts⟩ := h.options_settled
  obtain ⟨level', all', -, hopts'⟩ := h'.options_settled
  have hparts : r.path = r'.path ∧ r.options = r'.options := by
    by_cases hexplore : r.tool = .exploreProject
    · -- the directory may hold separators, but nothing follows it
      rw [hexplore] at hopts
      rw [← htool, hexplore] at hopts'
      have hnil : r.options = [] := hopts
      have hnil' : r'.options = [] := hopts'
      rw [keyParts, keyParts, hnil, hnil'] at hjoin
      exact ⟨by simpa [Text.join, Entries.sorted] using hjoin, hnil.trans hnil'.symm⟩
    · have hcut := congrArg (Text.pieces keySeparator) hjoin
      rw [Text.pieces_join r.keyParts_ne_nil (h.separator_notMem hexplore),
        Text.pieces_join r'.keyParts_ne_nil (h'.separator_notMem (htool ▸ hexplore))] at hcut
      obtain ⟨hpath, hrest⟩ := List.cons.inj hcut
      rw [hopts, hopts', ← htool, Tool.sorted_options, Tool.sorted_options] at hrest
      rw [hopts, hopts', ← htool]
      exact ⟨hpath, Tool.options_eq_of_keyParts hrest⟩
  obtain ⟨tool, path, options⟩ := r
  obtain ⟨rfl, rfl⟩ := hparts
  cases htool
  rfl

/-- Accepted calls share a key if and only if they make requests with one tool, one path and one list of
options. A call in other words has the key of the call, and the key of a directory belongs to no other
request, whatever the directory is called. -/
theorem key_eq_key_iff {operation operation' : Value} (h : ofCall operation given = .ok r)
    (h' : ofCall operation' given' = .ok r') :
    (r.key = r'.key ↔ r.tool = r'.tool ∧ r.path = r'.path ∧ r.options = r'.options) ∧
      (∀ words, Rephrased r.tool given words →
        ∃ s, ofCall operation words = .ok s ∧ s.key = r.key) ∧
      (r.tool = .exploreProject → r ≠ r' → r.key ≠ r'.key) := by
  obtain ⟨hop, hreads⟩ := ofCall_eq_ok_iff.mp h
  obtain ⟨-, hreads'⟩ := ofCall_eq_ok_iff.mp h'
  refine ⟨⟨?_, ?_⟩, ?_, ?_⟩
  · intro hkey
    rw [hreads.eq_of_key hreads' hkey]
    exact ⟨rfl, rfl, rfl⟩
  · rintro ⟨htool, hpath, hoptions⟩
    rw [key, key, htool, hpath, hoptions]
  · intro words hwords
    exact ⟨r, ofCall_eq_ok_iff.mpr ⟨hop, (reads_iff_of_rephrased hwords).mp hreads⟩, rfl⟩
  · intro _ hne hkey
    exact hne (hreads.eq_of_key hreads' hkey)

/-- A directory whose key goes on like the key of a symbol. -/
theorem key_ne_key_of_directory : ∃ r r',
    ofCall "explore-project" [("path", "Base.sort:detail_level=full:include_unexported=false")] =
        .ok r ∧
      ofCall "get-doc" [("path", " Base.sort "), ("include_unexported", "OFF")] = .ok r' ∧
      r.key ≠ r'.key := by
  let r : Request :=
    { tool := .exploreProject, path := "Base.sort:detail_level=full:include_unexported=false" }
  let r' : Request :=
    { tool := .getDoc, path := "Base.sort", options := Tool.getDoc.options .full false }
  have hr : ofCall "explore-project" [("path", r.path)] = .ok r := rfl
  have hr' : ofCall "get-doc" [("path", " Base.sort "), ("include_unexported", "OFF")] = .ok r' := rfl
  have hne : r ≠ r' := fun h => by cases congrArg Request.tool h
  exact ⟨r, r', hr, hr', (key_eq_key_iff hr hr').2.2 rfl hne⟩

end Request

end JuliaLookup
