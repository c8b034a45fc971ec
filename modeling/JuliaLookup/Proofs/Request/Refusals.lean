import JuliaLookup.Proofs.Request.Grammar
import JuliaLookup.Proofs.Script.Imports
import JuliaLookup.Proofs.Value.Printing

/-!
# What refusals say

A refusal repeats a path or a value only in quotes, so its message is one line of printable text whatever is
refused; names of arguments are the exception, and they are repeated only if they are not declared. The
message that turns down a path tells the path. Main statement: `refusals_printable`.
-/

namespace JuliaLookup

open Text (isPrintable_append isPrintable_of_all isPrintable_fixed_append)

/-! ### Messages -/

theorem PathFault.isPrintable_message (why : PathFault) : why.message.IsPrintable := by
  cases why with
  | notSymbol path =>
    rw [message, isPrintable_append]
    exact ⟨isPrintable_fixed_append (by decide) path.isPrintable_quoted, isPrintable_of_all (by decide)⟩
  | empty => exact isPrintable_of_all (by decide)
  | tooLong => exact isPrintable_of_all (by decide)
  | notUnicode => exact isPrintable_of_all (by decide)
  | control => exact isPrintable_of_all (by decide)

/-- What is wrong at a declared name is told in printable text. -/
theorem Tool.isPrintable_message_of_fault? {tool : Tool} {given : Entries} {name : Text} {fault : Fault}
    (h : tool.fault? given name = some fault) : fault.message.IsPrintable := by
  have hplain : ∀ f ∈ plainFaults, f.message.all CodePoint.isVisibleAscii = true := by decide +kernel
  rcases fault?_cases h with hmem | ⟨-, t, why, -, rfl⟩
  · exact isPrintable_of_all (hplain fault hmem)
  · exact isPrintable_fixed_append (by decide) why.isPrintable_message

theorem Problem.isPrintable_describe {p : Problem} (hplace : ∀ name ∈ p.place, name.IsPrintable)
    (hfault : p.fault.message.IsPrintable) : p.describe.IsPrintable := by
  have hdot : Text.IsPrintable "." := isPrintable_of_all (by decide)
  have hjoin := Text.isPrintable_join hdot hplace
  have hcolon : Text.IsPrintable ": " := isPrintable_of_all (by decide)
  unfold describe
  split
  · exact hfault
  · rw [isPrintable_append, isPrintable_append]
    exact ⟨⟨hjoin, hcolon⟩, hfault⟩

/-- Only problems with arguments may be told in text that is not printable. -/
theorem Refusal.isPrintable_message {refusal : Refusal}
    (h : ∀ problems, refusal = .badArguments problems → ∀ p ∈ problems, p.describe.IsPrintable) :
    refusal.message.IsPrintable := by
  cases refusal with
  | badArguments problems =>
    have hparts : ∀ t ∈ problems.map Problem.describe, t.IsPrintable := by
      intro t ht
      obtain ⟨p, hp, rfl⟩ := List.mem_map.mp ht
      exact h problems rfl p hp
    have hsemicolon : Text.IsPrintable "; " := isPrintable_of_all (by decide)
    exact isPrintable_fixed_append (by decide) (Text.isPrintable_join hsemicolon hparts)
  | unknownTool given => exact isPrintable_fixed_append (by decide) given.isPrintable_quoted
  | unknownOperation given => exact isPrintable_fixed_append (by decide) given.isPrintable_quoted
  | badPath path => exact isPrintable_fixed_append (by decide) path.isPrintable_quoted
  | badDirectory path => exact isPrintable_fixed_append (by decide) path.isPrintable_quoted
  | badDetail given => exact isPrintable_fixed_append (by decide) given.isPrintable_quoted

/-! ### Calls -/

namespace Request

variable {operation : Value} {given : Entries} {refusal : Refusal}

/-- With declared names only, what a refused call is told is printable. -/
theorem isPrintable_message_of_ofCall (h : ofCall operation given = .error refusal)
    (hknown : ∀ tool : Tool, operation = .str tool.name → given.names ⊆ tool.argumentNames) :
    refusal.message.IsPrintable := by
  refine Refusal.isPrintable_message ?_
  rintro problems rfl p hp
  cases hop : Tool.ofValue? operation with
  | none =>
    rw [ofCall, hop] at h
    cases h
  | some tool =>
    obtain rfl := Tool.ofValue?_eq_some_iff.mp hop
    obtain ⟨found, hcheck, hfound⟩ := ofCall_name_eq_error_iff.mp h
    cases hfound
    have hproblems := Tool.problems_check_of_known (hknown tool rfl)
    rw [hcheck, Checked.problems_error] at hproblems
    rw [hproblems] at hp
    obtain ⟨name, hname, hp⟩ := List.mem_filterMap.mp hp
    obtain ⟨fault, hfault, rfl⟩ := Option.map_eq_some_iff.mp hp
    have hnames : ∀ n ∈ tool.argumentNames, n.all CodePoint.isVisibleAscii = true := by
      cases tool <;> decide
    refine Problem.isPrintable_describe ?_ (Tool.isPrintable_message_of_fault? hfault)
    simpa using isPrintable_of_all (hnames name hname)

end Request

/-! ### Scripts -/

/-- How a tool turns down a path that no script can be written about. -/
def Tool.pathRefusal (tool : Tool) (path : Text) : Refusal :=
  if tool = .exploreProject then .badDirectory path else .badPath path

theorem Tool.message_pathRefusal_injective (tool : Tool) :
    Function.Injective fun path => (tool.pathRefusal path).message := by
  intro a b h
  simp only [pathRefusal] at h
  split at h
  · exact Text.quoted_injective (List.append_cancel_left h)
  · exact Text.quoted_injective (List.append_cancel_left h)

namespace Query

variable {operation : Value} {tool : Tool} {path : Text} {options : Entries} {refusal : Refusal}

/-- No script is written about a path, whatever the options are. -/
def Rejects (tool : Tool) (path : Text) : Prop :=
  ∀ options s, build (.str tool.name) path options ≠ .ok s

theorem build_name (tool : Tool) (path : Text) (options : Entries) :
    build (.str tool.name) path options = (of tool path options).map script := by
  rw [build, ofOperation, Tool.ofValue?_eq_some_iff.mpr rfl]

theorem of_of_not_admits (h : path = [] ∨ ¬ tool.Admits path) :
    of tool path options = .error (tool.pathRefusal path) := by
  by_cases htool : tool = .exploreProject
  · have hbad : (path.isEmpty || path.any CodePoint.isControl) = true := by
      simpa [Tool.Admits, htool] using h
    rw [of, if_pos htool, if_pos hbad, Tool.pathRefusal, if_pos htool]
  · have hbad : ¬ SymbolPath.isValid path = true := by
      rcases h with rfl | h
      · decide
      · simpa [Tool.Admits, htool] using h
    rw [of, if_neg htool, if_neg hbad, Tool.pathRefusal, if_neg htool]

/-- Without options, a script is written about every other path. -/
theorem exists_of_eq_ok (hne : path ≠ []) (h : tool.Admits path) : ∃ q, of tool path [] = .ok q := by
  by_cases htool : tool = .exploreProject
  · subst htool
    exact ⟨_, of_exploreProject_eq_ok_iff.mpr ⟨hne, by simpa [Tool.Admits] using h, rfl⟩⟩
  · have hvalid : SymbolPath.isValid path = true := by simpa [Tool.Admits, htool] using h
    exact ⟨_, (of_symbol_eq_ok_iff htool).mpr ⟨hvalid, .full, fun _ => rfl, rfl⟩⟩

/-- A tool rejects the empty path and every path whose characters it does not admit. -/
theorem rejects_iff : Rejects tool path ↔ path = [] ∨ ¬ tool.Admits path := by
  constructor
  · intro h
    by_contra hgood
    rw [not_or, not_not] at hgood
    obtain ⟨q, hq⟩ := exists_of_eq_ok hgood.1 hgood.2
    exact h [] q.script (by rw [build_name, hq]; rfl)
  · intro h options s hs
    rw [build_name, of_of_not_admits h] at hs
    cases hs

theorem build_of_rejects (h : Rejects tool path) :
    build (.str tool.name) path options = .error (tool.pathRefusal path) := by
  rw [build_name, of_of_not_admits (rejects_iff.mp h)]
  rfl

theorem view_eq_error (h : view tool options = .error refusal) : ∃ given, refusal = .badDetail given := by
  have hdetail : detail options = .error refusal := by
    cases tool with
    | getDoc => exact map_eq_error_iff.mp h
    | _ => cases h
  unfold detail at hdetail
  dsimp only at hdetail
  split at hdetail
  · cases hdetail
  · exact ⟨_, (Except.error.inj hdetail).symm⟩

/-- A question is refused for its path or for the level of detail. -/
theorem of_eq_error_cases (h : of tool path options = .error refusal) :
    refusal = tool.pathRefusal path ∨ ∃ given, refusal = .badDetail given := by
  by_cases htool : tool = .exploreProject
  · rw [of, if_pos htool] at h
    split at h
    · refine .inl ?_
      rw [Tool.pathRefusal, if_pos htool]
      exact (Except.error.inj h).symm
    · cases h
  · rw [of, if_neg htool] at h
    split at h
    · exact .inr (view_eq_error (map_eq_error_iff.mp h))
    · refine .inl ?_
      rw [Tool.pathRefusal, if_neg htool]
      exact (Except.error.inj h).symm

theorem build_ne_badArguments (problems : List Problem) :
    build operation path options ≠ .error (.badArguments problems) := by
  intro h
  rw [build, map_eq_error_iff, ofOperation] at h
  split at h
  · cases h
  · rcases of_eq_error_cases h with hpath | ⟨given, hdetail⟩
    · rw [Tool.pathRefusal] at hpath
      split at hpath
      · cases hpath
      · cases hpath
    · cases hdetail

/-- Whatever script is refused, the message is printable, and so it is for a refused call that gives declared
names only. Printable text holds no line feed and nothing of a hidden class. One tool turns down no two paths
in the same words, whatever the options are. -/
theorem refusals_printable :
    (∀ operation path options refusal, build operation path options = .error refusal →
      refusal.message.IsPrintable) ∧
    (∀ operation given refusal, Request.ofCall operation given = .error refusal →
      (∀ tool : Tool, operation = .str tool.name → given.names ⊆ tool.argumentNames) →
      refusal.message.IsPrintable) ∧
    (∀ t : Text, t.IsPrintable →
      lineFeed ∉ t ∧ ∀ c ∈ t, ∀ table ∈ hiddenClasses, table.holds c.val = false) ∧
    (∀ tool path path', Rejects tool path → Rejects tool path' → path ≠ path' → ∀ options options',
      ∃ refusal refusal', build (.str tool.name) path options = .error refusal ∧
        build (.str tool.name) path' options' = .error refusal' ∧
        refusal.message ≠ refusal'.message) := by
  refine ⟨?_, fun _ _ _ h hknown => Request.isPrintable_message_of_ofCall h hknown, ?_, ?_⟩
  · intro operation path options refusal h
    refine Refusal.isPrintable_message ?_
    rintro problems rfl
    exact absurd h (build_ne_badArguments problems)
  · intro t ht
    have hfeed : controls.holds lineFeed.val = true := by decide
    have hcontrols : controls ∈ hiddenClasses := by simp [hiddenClasses]
    refine ⟨fun hmem => ?_, fun c hc table htable => ht.holds_hidden hc htable⟩
    have hout := ht.holds_hidden hmem hcontrols
    rw [hfeed] at hout
    cases hout
  · intro tool path path' h h' hne options options'
    refine ⟨_, _, build_of_rejects h, build_of_rejects h', ?_⟩
    exact fun hmessage => hne (tool.message_pathRefusal_injective hmessage)

/-- A line feed and a line separator behind a name: both are escaped, each in its own way. -/
theorem refusals_printable_of_line_breaks :
    let feed : Text := ("norm" : Text) ++ [0x0A]
    let separator : Text := ("norm" : Text) ++ [0x2028]
    ∃ refusal refusal', build (.str Tool.getDoc.name) feed [] = .error refusal ∧
      build (.str Tool.getDoc.name) separator [] = .error refusal' ∧
      refusal.message = "Invalid path: 'norm\\n'" ∧
      refusal'.message = "Invalid path: 'norm\\u2028'" ∧
      refusal.message.IsPrintable ∧ refusal'.message.IsPrintable ∧
      refusal.message ≠ refusal'.message := by
  intro feed separator
  obtain ⟨hbuild, -, -, hdistinct⟩ := refusals_printable
  have hfeed : Rejects .getDoc feed := rejects_iff.mpr (.inr (by simp [Tool.Admits]; decide +kernel))
  have hseparator : Rejects .getDoc separator :=
    rejects_iff.mpr (.inr (by simp [Tool.Admits]; decide +kernel))
  have hne : feed ≠ separator := by decide
  obtain ⟨refusal, refusal', h, h', hmessage⟩ := hdistinct .getDoc feed separator hfeed hseparator hne [] []
  have hpath := Except.error.inj (h.symm.trans (build_of_rejects hfeed))
  have hpath' := Except.error.inj (h'.symm.trans (build_of_rejects hseparator))
  refine ⟨refusal, refusal', h, h', ?_, ?_, hbuild _ _ _ _ h, hbuild _ _ _ _ h', hmessage⟩
  · rw [hpath]
    decide +kernel
  · rw [hpath']
    decide +kernel

end Query

end JuliaLookup
