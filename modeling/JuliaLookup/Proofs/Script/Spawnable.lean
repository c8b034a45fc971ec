import JuliaLookup.Proofs.Request.Acceptance
import JuliaLookup.Proofs.Script.Directory
import JuliaLookup.Proofs.Text.Bytes

/-!
# Scripts that a process can take

A script is one argument of a process. An argument ends at the first null character, a lone surrogate has
no bytes to be sent as, and an argument must not be too long. Main statement: every accepted call has a
script, the script can be sent as it is, and it is short.
-/

namespace JuliaLookup

/-- What an argument of a process can hold. -/
def CodePoint.isSendable (c : CodePoint) : Bool := c != 0 && !c.isSurrogate

/-! ### Templates -/

namespace Template

variable {p q : CodePoint → Bool} {template rest : Template} {filling : Text} {m n : Nat}

theorem Keeps.mono (h : Keeps p template) (himp : ∀ c, p c = true → q c = true) : Keeps q template := by
  intro t ht
  rw [List.all_eq_true]
  intro c hc
  exact himp c (List.all_eq_true.mp (h t ht) c hc)

/-- A template filled with what keeps to a class keeps to it as a whole. -/
theorem Keeps.fill (h : Keeps p template) (hfilling : filling.all p = true) :
    (template.fill filling).all p = true := by
  rw [Template.fill, List.all_flatMap, List.all_eq_true]
  intro piece hpiece
  cases piece with
  | fixed t => exact h t hpiece
  | slot => exact hfilling

/-- The bytes that the fixed texts of a template take. -/
def fixedBytes (template : Template) : Nat := (Utf8.encode (template.fill [])).length

/-- A filled template takes the bytes of its fixed texts, and those of the filling for every slot. -/
theorem length_encode_fill (template : Template) (filling : Text) :
    (Utf8.encode (template.fill filling)).length =
      template.fixedBytes + template.count .slot * (Utf8.encode filling).length := by
  rw [fixedBytes]
  exact measure_fill (fun t => (Utf8.encode t).length) Utf8.length_encode_append template filling

theorem fixedBytes_nil : fixedBytes [] ≤ 0 := Nat.le_refl 0

theorem fixedBytes_slot (hrest : fixedBytes rest ≤ n) : fixedBytes (.slot :: rest) ≤ n := hrest

theorem fixedBytes_append (hfirst : fixedBytes template ≤ m) (hrest : fixedBytes rest ≤ n) :
    fixedBytes (template ++ rest) ≤ m + n := by
  rw [fixedBytes, fill_append, Utf8.length_encode_append]
  exact Nat.add_le_add hfirst hrest

theorem fixedBytes_fixed {t : Text} (ht : (Utf8.encode t).length ≤ m) (hrest : fixedBytes rest ≤ n) :
    fixedBytes (.fixed t :: rest) ≤ m + n := by
  rw [fixedBytes, fill_cons, Utf8.length_encode_append]
  exact Nat.add_le_add ht hrest

theorem ofString_ofList (cs : List Char) :
    Text.ofString (String.ofList cs) = cs.map CodePoint.ofChar := by
  rw [Text.ofString, String.toList_ofList]

/-- A written text in ASCII takes one byte for each character. -/
theorem fixedBytes_ascii (cs : List Char) (hcs : (cs.all fun c => c.toNat < 0x80) = true)
    (hrest : fixedBytes rest ≤ n) :
    fixedBytes (.fixed (Text.ofString (String.ofList cs)) :: rest) ≤ cs.length + n := by
  have hascii : ∀ c ∈ cs.map CodePoint.ofChar, c.val < 0x80 := by
    simpa using hcs
  refine fixedBytes_fixed ?_ hrest
  have hlength : (Utf8.encode (cs.map CodePoint.ofChar)).length = cs.length := by
    rw [Utf8.length_encode_of_ascii hascii, List.length_map]
  rw [ofString_ofList]
  exact Nat.le_of_eq hlength

/-- Any other written text takes at most four. -/
theorem fixedBytes_written (cs : List Char) (hrest : fixedBytes rest ≤ n) :
    fixedBytes (.fixed (Text.ofString (String.ofList cs)) :: rest) ≤ 4 * cs.length + n := by
  refine fixedBytes_fixed ?_ hrest
  rw [ofString_ofList, ← List.length_map CodePoint.ofChar]
  exact Utf8.length_encode_le _

theorem fixedBytes_lines_nil : fixedBytes (lines []) ≤ 0 := Nat.le_refl 0

theorem fixedBytes_lines_cons {l : List Piece} {ls : List (List Piece)} (hl : fixedBytes l ≤ m)
    (hls : fixedBytes (lines ls) ≤ n) : fixedBytes (lines (l :: ls)) ≤ m + (1 + 0) + n := by
  have hend : fixedBytes [.fixed "\n"] ≤ 1 + 0 := fixedBytes_ascii ['\n'] (by decide) fixedBytes_nil
  rw [lines, List.flatMap_cons]
  exact fixedBytes_append (fixedBytes_append hl hend) hls

end Template

open Template in
/-- The fixed texts of a view are short. -/
theorem View.fixedBytes_le (v : View) : v.template.fixedBytes ≤ 2000 := by
  rcases v with _ | _ | _ | _ | (_ | _) | _
  all_goals
    simp only [View.template, Catalog.signatures, Catalog.documentation, Catalog.everything,
      Catalog.unexported, Catalog.members, Catalog.source, Catalog.findMethodEnd,
      Catalog.showMethodInfo, if_true, if_false, Bool.false_eq_true]
    apply Nat.le_trans
    · repeat' first
        | with_reducible exact fixedBytes_nil
        | with_reducible exact fixedBytes_lines_nil
        | with_reducible apply fixedBytes_append
        | with_reducible apply fixedBytes_lines_cons
        | with_reducible apply fixedBytes_slot
        | apply fixedBytes_ascii _ (by decide)
        | apply fixedBytes_written _
    · decide +kernel

theorem View.count_slot_le (v : View) : v.template.count .slot ≤ 2 := by
  rcases v with _ | _ | _ | _ | (_ | _) | _ <;> decide

open Template in
theorem fixedBytes_project_le : Catalog.project.fixedBytes ≤ 2000 := by
  rw [Catalog.project]
  apply Nat.le_trans
  · repeat' first
      | with_reducible exact fixedBytes_nil
      | with_reducible exact fixedBytes_lines_nil
      | with_reducible apply fixedBytes_lines_cons
      | with_reducible apply fixedBytes_slot
      | apply fixedBytes_ascii _ (by decide)
  · decide +kernel

theorem count_slot_project : Catalog.project.count .slot = 1 := by decide

open Template in
theorem keeps_programPoints_project : Catalog.project.Keeps CodePoint.isProgramPoint := by
  have hend : CodePoint.isProgramPoint (.ofChar '\n') = true := by decide
  rw [Catalog.project]
  repeat' first
    | exact keeps_nil
    | exact keeps_lines_nil
    | refine keeps_lines_cons hend ?_ ?_
    | refine keeps_slot ?_
    | refine keeps_written (by decide) ?_

theorem CodePoint.isSendable_of_isProgramPoint {c : CodePoint} (hc : c.isProgramPoint = true) :
    c.isSendable = true := by
  have hsorted : programPoints.isSorted 0 = true := by decide
  have hbounds : ∀ r ∈ programPoints, 0x0A ≤ r.1 ∧ r.2 < 0xD800 := by decide
  obtain ⟨r, hr, hlow, hhigh⟩ := (RangeTable.holds_iff hsorted).mp hc
  obtain ⟨hfirst, hlast⟩ := hbounds r hr
  have hne : c ≠ 0 := by
    rintro rfl
    have : (0 : CodePoint).val = 0 := rfl
    omega
  have hsurrogate : c.isSurrogate = false := by
    rw [isSurrogate, Bool.and_eq_false_iff, decide_eq_false_iff_not]
    omega
  rw [isSendable, hsurrogate]
  simpa using hne

/-! ### Paths -/

/-- A literal is as sendable as its value. -/
theorem StringLiteral.all_isSendable_write {t : Text} (ht : t.all CodePoint.isSendable = true) :
    (write t).all CodePoint.isSendable = true := by
  have hmark : mark.isSendable = true := by decide
  have hpoint : ∀ c ∈ t, (writePoint c).all CodePoint.isSendable = true := by
    intro c hc
    have hbackslash : backslash.isSendable = true := by decide
    have hsend := List.all_eq_true.mp ht c hc
    unfold writePoint
    split_ifs
    · simp [hbackslash, hsend]
    · simp [hsend]
  simpa [write, hmark, List.all_eq_true] using hpoint

/-- Escaping doubles ASCII marks only, so a literal takes four bytes for each code point of its value, and
one for each of its two marks. -/
theorem StringLiteral.length_encode_write_le (t : Text) :
    (Utf8.encode (write t)).length ≤ 4 * t.length + 2 := by
  have hmark : (Utf8.encodePoint mark).length = 1 := by decide
  have hpoint : ∀ c, (Utf8.encode (writePoint c)).length ≤ 4 := by
    intro c
    unfold writePoint
    split_ifs with hc
    · rw [needsEscape, Bool.or_eq_true, Bool.or_eq_true, beq_iff_eq, beq_iff_eq, beq_iff_eq] at hc
      rcases hc with (rfl | rfl) | rfl <;> decide
    · rw [Utf8.length_encode_cons]
      exact Utf8.length_encodePoint_le c
  have hbody : (Utf8.encode (t.flatMap writePoint)).length ≤ 4 * t.length := by
    induction t with
    | nil => exact Nat.le_refl 0
    | cons c t ih =>
      have hc := hpoint c
      rw [List.flatMap_cons, Utf8.length_encode_append, List.length_cons]
      omega
  have hend : (Utf8.encode [mark]).length = 1 := hmark
  rw [write, Utf8.length_encode_cons, Utf8.length_encode_append, hmark, hend]
  omega

/-! ### Scripts -/

namespace Query

/-- An import line is as sendable as the path that it is taken from. -/
theorem all_isSendable_importLine {tool : Tool} {path : Text}
    (hpath : path.all CodePoint.isSendable = true) :
    (importLine (tool.package? path)).all CodePoint.isSendable = true := by
  have hfixed : (("import " : Text) ++ "\n").all CodePoint.isSendable = true := by decide
  obtain ⟨himport, hend⟩ := Bool.and_eq_true_iff.mp (List.all_append ▸ hfixed)
  have hhead : (SymbolPath.head path).all CodePoint.isSendable = true :=
    List.all_eq_true.mpr fun c hc => List.all_eq_true.mp hpath c (SymbolPath.mem_of_mem_head hc)
  rcases importLine_package tool path with hline | hline
  · rw [hline]
    rfl
  · rw [hline, List.all_append, List.all_append, himport, hhead, hend]
    rfl

theorem length_encode_importLine_le (tool : Tool) (path : Text) :
    (Utf8.encode (importLine (tool.package? path))).length ≤ 8 + (Utf8.encode path).length := by
  have himport : (Utf8.encode ("import " : Text)).length = 7 := by decide
  have hend : (Utf8.encode ("\n" : Text)).length = 1 := by decide
  have hhead : (Utf8.encode (SymbolPath.head path)).length ≤ (Utf8.encode path).length :=
    Utf8.length_encode_sublist (List.takeWhile_sublist _)
  rcases importLine_package tool path with hline | hline
  · rw [hline]
    exact Nat.zero_le _
  · rw [hline, Utf8.length_encode_append, Utf8.length_encode_append]
    omega

/-- A script about a symbol can be sent if its path can, and holds the path three times at most. -/
theorem spawnable_symbol (tool : Tool) (view : View) {path : Text}
    (hpath : path.all CodePoint.isSendable = true) :
    (script (.symbol tool view path)).text.all CodePoint.isSendable = true ∧
      (Utf8.encode (script (.symbol tool view path)).text).length ≤
        2008 + 3 * (Utf8.encode path).length := by
  have htext : (script (.symbol tool view path)).text =
      importLine (tool.package? path) ++ view.template.fill path := rfl
  have hkeeps := view.keeps_programPoints.mono fun _ => CodePoint.isSendable_of_isProgramPoint
  rw [htext, List.all_append, Utf8.length_encode_append, Template.length_encode_fill]
  constructor
  · rw [all_isSendable_importLine hpath, hkeeps.fill hpath]
    rfl
  · have himport := length_encode_importLine_le tool path
    have hfixed := view.fixedBytes_le
    have hslots : view.template.count .slot * (Utf8.encode path).length ≤
        2 * (Utf8.encode path).length := Nat.mul_le_mul_right _ view.count_slot_le
    omega

/-- A script about a project can be sent if the name of its directory can, and holds its literal once. -/
theorem spawnable_project {path : Text} (hpath : path.all CodePoint.isSendable = true) :
    (script (.project path)).text.all CodePoint.isSendable = true ∧
      (Utf8.encode (script (.project path)).text).length ≤ 2002 + 4 * path.length := by
  have htext : (script (.project path)).text =
      Catalog.project.fill (StringLiteral.write path) := rfl
  have hkeeps := keeps_programPoints_project.mono fun _ => CodePoint.isSendable_of_isProgramPoint
  rw [htext, Template.length_encode_fill, count_slot_project, Nat.one_mul]
  constructor
  · exact hkeeps.fill (StringLiteral.all_isSendable_write hpath)
  · have hfixed := fixedBytes_project_le
    have hliteral := StringLiteral.length_encode_write_le path
    omega

end Query

/-! ### Requests -/

namespace Request

variable {r : Request} {given : Entries}

theorem Reads.length_path_le (h : r.Reads given) : r.path.length ≤ 500 := by
  obtain ⟨t, -, htidy⟩ := h.path_tidy
  exact (Tool.tidyPath_eq_ok_iff.mp htidy).2.2.1

/-- The path of a request can be sent. -/
theorem Reads.all_isSendable_path (h : r.Reads given) : r.path.all CodePoint.isSendable = true := by
  obtain ⟨t, -, htidy⟩ := h.path_tidy
  obtain ⟨-, -, -, hsurrogate, hadmits⟩ := Tool.tidyPath_eq_ok_iff.mp htidy
  have hnull : ∀ c ∈ r.path, c ≠ 0 := by
    rw [Tool.Admits] at hadmits
    split_ifs at hadmits
    · rintro c hc rfl
      exact List.any_eq_false.mp hadmits 0 hc rfl
    · rintro c hc rfl
      exact SymbolPath.notMem_of_isPathPoint hadmits (by decide +kernel) hc
  rw [List.all_eq_true]
  intro c hc
  have hc' : c.isSurrogate = false := by simpa using List.any_eq_false.mp hsurrogate c hc
  rw [CodePoint.isSendable, hc']
  simpa using hnull c hc

theorem detail_options (level : Detail) (all : Bool) :
    Query.detail (Tool.getDoc.options level all) = .ok level := by
  cases level <;> cases all <;> rfl

/-- The script writer takes every request that is read off a call. -/
theorem Reads.exists_query (h : r.Reads given) :
    (r.tool = .exploreProject ∧ Query.of r.tool r.path r.options = .ok (.project r.path)) ∨
      (SymbolPath.isValid r.path = true ∧
        ∃ v, Query.of r.tool r.path r.options = .ok (.symbol r.tool v r.path)) := by
  obtain ⟨t, -, htidy⟩ := h.path_tidy
  obtain ⟨-, hne, -, -, hadmits⟩ := Tool.tidyPath_eq_ok_iff.mp htidy
  obtain ⟨level, all, -, hoptions⟩ := h.options_settled
  by_cases htool : r.tool = .exploreProject
  · rw [Tool.Admits, if_pos htool] at hadmits
    refine .inl ⟨htool, ?_⟩
    rw [htool]
    exact Query.of_exploreProject_eq_ok_iff.mpr ⟨hne, hadmits, rfl⟩
  · rw [Tool.Admits, if_neg htool] at hadmits
    refine .inr ⟨hadmits, _, (Query.of_symbol_eq_ok_iff htool).mpr ⟨hadmits, level, ?_, rfl⟩⟩
    intro hdoc
    rw [hoptions, hdoc, detail_options]

theorem Reads.exists_script (h : r.Reads given) : ∃ s, r.script = .ok s := by
  rcases h.exists_query with ⟨-, hq⟩ | ⟨-, v, hq⟩
  · exact ⟨_, map_eq_ok_iff.mpr ⟨_, hq, rfl⟩⟩
  · exact ⟨_, map_eq_ok_iff.mpr ⟨_, hq, rfl⟩⟩

/-- Every accepted call has a script: what the checks let through, the script writer takes, whether it is
asked for the request or for the operation by name. The script holds no null character and no lone
surrogate, and takes at most 10000 bytes. -/
theorem ofCall_spawnable {operation : Value} (h : ofCall operation given = .ok r) :
    ∃ s, r.script = .ok s ∧ Query.build (.str r.tool.name) r.path r.options = .ok s ∧
      (0 : CodePoint) ∉ s.text ∧ (∀ c ∈ s.text, c.isSurrogate = false) ∧
      (Utf8.encode s.text).length ≤ 10000 := by
  obtain ⟨-, hreads⟩ := ofCall_eq_ok_iff.mp h
  have hlength := hreads.length_path_le
  have hpath := hreads.all_isSendable_path
  have hencode := Utf8.length_encode_le r.path
  have hquery : ∃ q, Query.of r.tool r.path r.options = .ok q ∧
      (Query.script q).text.all CodePoint.isSendable = true ∧
      (Utf8.encode (Query.script q).text).length ≤ 10000 := by
    rcases hreads.exists_query with ⟨-, hq⟩ | ⟨-, v, hq⟩
    · obtain ⟨hsend, hbytes⟩ := Query.spawnable_project hpath
      exact ⟨_, hq, hsend, by omega⟩
    · obtain ⟨hsend, hbytes⟩ := Query.spawnable_symbol r.tool v hpath
      exact ⟨_, hq, hsend, by omega⟩
  obtain ⟨q, hq, hsend, hbytes⟩ := hquery
  have hpoint : ∀ c ∈ q.script.text, c ≠ 0 ∧ c.isSurrogate = false := by
    simpa [CodePoint.isSendable] using List.all_eq_true.mp hsend
  have htool : Tool.ofValue? (.str r.tool.name) = some r.tool := Tool.named?_name r.tool
  refine ⟨q.script, ?_, ?_, fun hnull => (hpoint 0 hnull).1 rfl, fun c hc => (hpoint c hc).2, hbytes⟩
  · rw [Request.script, hq]
    rfl
  · rw [Query.build, Query.ofOperation, htool]
    exact map_eq_ok_iff.mpr ⟨q, hq, rfl⟩

/-- A directory with a name that has to be escaped, and with characters outside ASCII. -/
theorem ofCall_spawnable_directory : ∃ r s,
    ofCall "explore-project" [("path", " /home/ü/\"$(x)\" 𝕁\n")] = .ok r ∧
      r.path = "/home/ü/\"$(x)\" 𝕁" ∧ r.script = .ok s ∧
      (0 : CodePoint) ∉ s.text ∧ (Utf8.encode s.text).length ≤ 10000 := by
  let r : Request := { tool := .exploreProject, path := "/home/ü/\"$(x)\" 𝕁" }
  have hr : ofCall "explore-project" [("path", " /home/ü/\"$(x)\" 𝕁\n")] = .ok r := rfl
  obtain ⟨s, hs, -, hnull, -, hbytes⟩ := ofCall_spawnable hr
  exact ⟨r, s, hr, rfl, hs, hnull, hbytes⟩

end Request

end JuliaLookup
