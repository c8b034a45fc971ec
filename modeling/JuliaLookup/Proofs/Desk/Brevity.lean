import JuliaLookup.Proofs.Desk.Containment
import JuliaLookup.Proofs.Request.Grammar

/-!
# Short refusals

However long the arguments of a call are, the answer that refuses it is short. A refusal repeats nothing
but a path, and no path is repeated before it is known to be short; quoting makes each of its code points
ten at the most. Main statement: `call_refuses_briefly`.
-/

namespace JuliaLookup

/-! ### Lengths of texts -/

namespace Text

theorem length_quotePoint_le (mark c : CodePoint) : (quotePoint mark c).length ≤ 10 := by
  have hescape : (numericEscape c).length ≤ 10 := by
    unfold numericEscape
    split_ifs
    all_goals
      rw [List.length_append, length_hex]
      decide
  unfold quotePoint
  split_ifs
  · exact Nat.le_add_left 2 8
  · decide
  · decide
  · decide
  · exact Nat.le_add_left 1 9
  · exact hescape

theorem length_quoted_le (t : Text) : t.quoted.length ≤ 10 * t.length + 2 := by
  have hbody : ∀ s : Text, (s.flatMap (quotePoint t.quoteMark)).length ≤ 10 * s.length := by
    intro s
    induction s with
    | nil => exact Nat.le_refl 0
    | cons c s ih =>
      have hc := length_quotePoint_le t.quoteMark c
      rw [List.flatMap_cons, List.length_append, List.length_cons]
      omega
  have ht := hbody t
  rw [quoted, List.length_cons, List.length_append, List.length_singleton]
  omega

theorem length_join_le (sep : Text) (parts : List Text) :
    (join sep parts).length ≤ (parts.map fun p => p.length + sep.length).sum := by
  induction parts with
  | nil => exact Nat.le_refl 0
  | cons a rest ih =>
    rw [List.map_cons, List.sum_cons]
    cases rest with
    | nil =>
      rw [join, List.intercalate_singleton]
      omega
    | cons b rest =>
      rw [join_cons_cons, List.length_append, List.length_append]
      omega

end Text

/-- A sum over what some members of a list come to is within a sum over all members. -/
theorem sum_map_filterMap_le {α β : Type} {f : α → Option β} {size : β → Nat} {room : α → Nat}
    {xs : List α} (h : ∀ a ∈ xs, ∀ b, f a = some b → size b ≤ room a) :
    ((xs.filterMap f).map size).sum ≤ (xs.map room).sum := by
  induction xs with
  | nil => exact Nat.le_refl 0
  | cons a rest ih =>
    have hrest := ih fun b hb => h b (List.mem_cons_of_mem a hb)
    rw [List.map_cons, List.sum_cons]
    cases hf : f a with
    | none =>
      rw [List.filterMap_cons_none hf]
      omega
    | some b =>
      have ha := h a List.mem_cons_self b hf
      rw [List.filterMap_cons_some hf, List.map_cons, List.sum_cons]
      omega

/-! ### Lengths of messages -/

namespace Tool

variable {tool : Tool} {given : Entries} {name : Text} {fault : Fault}

/-- A path is repeated only if it is short. -/
theorem length_message_of_tidyPath {t : Text} {why : PathFault} (h : tool.tidyPath t = .error why) :
    why.message.length ≤ 5066 := by
  unfold tidyPath at h
  dsimp only at h
  split_ifs at h with hempty hlong
  all_goals obtain rfl := Except.error.inj h
  · decide
  · decide
  · decide
  · decide
  · have hquoted := Text.length_quoted_le t.strip
    have hlead : ("Invalid path: " : Text).length = 14 := by decide
    have hend : (". Expected a dotted Julia name such as 'Base.sort'" : Text).length = 50 := by decide
    have hlimit : maxPathLength = 500 := rfl
    rw [PathFault.message, List.length_append, List.length_append]
    omega

/-- How much may be said of what is given for a declared name. -/
def room (name : Text) : Nat := if name = pathName then 5079 else 76

theorem length_message_of_fault? (h : tool.fault? given name = some fault) :
    fault.message.length ≤ room name := by
  have hplain : ∀ f ∈ plainFaults, f.message.length ≤ 76 := by decide +kernel
  have hlead : ("Value error, " : Text).length = 13 := by decide
  unfold room
  rcases fault?_cases h with hmem | ⟨rfl, t, why, hwhy, rfl⟩
  · have hlength := hplain fault hmem
    split
    · omega
    · exact hlength
  · have hlength := length_message_of_tidyPath hwhy
    rw [if_pos rfl, Fault.message, List.length_append]
    omega

end Tool

/-- A problem at a name is told with the name before it. -/
theorem Problem.length_describe_le (name : Text) (fault : Fault) :
    (describe { place := [name], fault }).length ≤ name.length + 2 + fault.message.length := by
  have hcolon : (": " : Text).length = 2 := by decide
  have hplace : Text.join "." [name] = name := List.intercalate_singleton
  unfold describe
  rw [hplace]
  split
  · exact Nat.le_add_left fault.message.length _
  · rw [List.length_append, List.length_append, hcolon]

namespace Request

variable {tool : Tool} {operation : Value} {given : Entries} {refusal : Refusal}

/-- What is told of a call with declared names only, if it is refused, is short. -/
theorem length_render_le (hknown : given.names ⊆ tool.argumentNames)
    (hrefused : ofCall (.str tool.name) given = .error refusal) :
    refusal.failure.render.length ≤ 5400 := by
  obtain ⟨problems, hcheck, rfl⟩ := ofCall_name_eq_error_iff.mp hrefused
  have hproblems := Tool.problems_check_of_known hknown
  rw [hcheck, Checked.problems_error] at hproblems
  have hsum : ((problems.map Problem.describe).map fun t => t.length + 2).sum ≤
      (tool.argumentNames.map fun name => name.length + 4 + Tool.room name).sum := by
    rw [hproblems, List.map_map]
    refine sum_map_filterMap_le ?_
    intro name _ problem hproblem
    obtain ⟨fault, hfault, rfl⟩ := Option.map_eq_some_iff.mp hproblem
    have hmessage := Tool.length_message_of_fault? hfault
    have hdescribe := Problem.length_describe_le name fault
    show (Problem.describe _).length + 2 ≤ _
    omega
  have hroom : (tool.argumentNames.map fun name => name.length + 4 + Tool.room name).sum ≤ 5277 := by
    cases tool <;> decide
  have hlead : ("Invalid input: " : Text).length = 15 := by decide
  have hjoin : (Text.join "; " (problems.map Problem.describe)).length ≤
      ((problems.map Problem.describe).map fun t => t.length + 2).sum := Text.length_join_le "; " _
  show (("Invalid input: " : Text) ++ Text.join "; " (problems.map Problem.describe)).length ≤ 5400
  rw [List.length_append, hlead]
  omega

end Request

namespace Desk

variable {τ : Type} [Sub τ] [LT τ] [DecidableRel (α := τ) (· < ·)]

/-- A call to a tool that gives declared names only, with values of whatever kinds and sizes, is answered in
5400 code points at most if it is refused. -/
theorem call_refuses_briefly {tool : Tool} {operation : Value} {given : Entries} {refusal : Refusal}
    (hop : Tool.ofValue? operation = some tool) (hknown : given.names ⊆ tool.argumentNames)
    (hrefused : Request.ofCall operation given = .error refusal) (runner : Runner) (now later : τ)
    (c : Cache τ) :
    refusal.failure.code = .invalidInput ∧
      (call runner now later operation given c).reply =
        .answer { text := refusal.failure.render, cached := false, isError := true } ∧
      refusal.failure.render.length ≤ 5400 := by
  obtain rfl := Tool.ofValue?_eq_some_iff.mp hop
  have hcourse := course_call runner now later (.str tool.name) given c
  obtain ⟨hreply, -⟩ := hcourse.of_refused hrefused
  exact ⟨rfl, hreply, Request.length_render_le hknown hrefused⟩

/-- Something is wrong with every argument, and the path is repeated in quotes. -/
theorem call_refuses_three_briefly :
    let runner : Runner := fun _ => { outcome := .done [] }
    let given : Entries := [("include_unexported", .list [.null]), ("path", .str [0x3B, 0x10FFFF, 0x202E]),
      ("detail_level", .str [0xD800])]
    ∃ text, (call runner (0 : Int) 1 "get-doc" given { lifetime := 10 }).reply =
        .answer { text, cached := false, isError := true } ∧
      "Invalid input: path: Value error, Invalid path: ';\\U0010ffff\\u202e'. Expected" <+: text ∧
      text.length ≤ 5400 := by
  intro runner given
  have hknown : given.names ⊆ Tool.getDoc.argumentNames := by decide
  have hrefused : Request.ofCall "get-doc" given = .error (.badArguments
      [{ place := ["path"], fault := .path (.notSymbol [0x3B, 0x10FFFF, 0x202E]) },
       { place := ["detail_level"], fault := .notUnicode },
       { place := ["include_unexported"], fault := .notBool }]) := rfl
  obtain ⟨-, hreply, hlength⟩ :=
    call_refuses_briefly rfl hknown hrefused runner (0 : Int) 1 { lifetime := 10 }
  exact ⟨_, hreply, by decide +kernel, hlength⟩

end Desk

end JuliaLookup
