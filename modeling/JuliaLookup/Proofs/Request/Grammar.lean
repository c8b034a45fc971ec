import JuliaLookup.Proofs.Check.Forms
import JuliaLookup.Proofs.Check.Problems
import JuliaLookup.Proofs.Request.Rephrasing
import JuliaLookup.Proofs.Text.Pieces
import Mathlib.Data.List.Forall2

/-!
# The grammar of calls

Which calls are taken, said without the checks: what a tool takes for its path, and which values stand for
a level of detail and for a truth value. A call that is not taken is told everything that is wrong with it.
Main statement: `ofCall_follows_grammar`.
-/

namespace JuliaLookup

/-! ### Declared names -/

/-- The values that a parameter takes, and the form that each is brought to. -/
inductive Parameter.Takes : Parameter → Value → Value → Prop where
  | level (d : Detail) : Takes .detailLevel (.str d.name) (.str d.name)
  | flag {v : Value} {b : Bool} (h : Check.IsFlag v b) : Takes .includeUnexported v (.bool b)

/-- The paths that a tool takes, once the blanks around them are off. -/
structure Tool.TakesPath (tool : Tool) (path : Text) : Prop where
  length_pos : 1 ≤ path.length
  length_le : path.length ≤ 500
  no_surrogate : ∀ c ∈ path, c.isSurrogate = false
  shape : if tool = .exploreProject then ∀ c ∈ path, 32 ≤ c.val else SymbolPath.isValid path = true

namespace Detail

theorem named?_eq_some_iff {t : Text} {d : Detail} : named? t = some d ↔ t = d.name := by
  constructor
  · intro h
    have hname := List.find?_some h
    exact (beq_iff_eq.mp hname).symm
  · rintro rfl
    exact named?_name d

end Detail

namespace Parameter

variable {p : Parameter} {v w : Value}

theorem check_eq_ok_iff : p.check v = .ok w ↔ p.Takes v w := by
  cases p with
  | detailLevel =>
    rw [check, map_eq_ok_iff]
    constructor
    · rintro ⟨d, hd, rfl⟩
      obtain ⟨t, rfl, -, hnamed⟩ := Check.choice_eq_ok_iff.mp hd
      rw [Detail.named?_eq_some_iff.mp hnamed]
      exact .level d
    · intro h
      cases h with
      | level d =>
        have hclean : d.name.any CodePoint.isSurrogate = false := by cases d <;> decide
        exact ⟨d, Check.choice_eq_ok_iff.mpr ⟨_, rfl, hclean, Detail.named?_name d⟩, rfl⟩
  | includeUnexported =>
    rw [check, map_eq_ok_iff]
    constructor
    · rintro ⟨b, hb, rfl⟩
      exact .flag (Check.flag_eq_ok_iff.mp hb)
    · intro h
      cases h with
      | flag h => exact ⟨_, Check.flag_eq_ok_iff.mpr h, rfl⟩

end Parameter

namespace Tool

variable {tool : Tool} {given : Entries}

theorem takesPath_iff {path : Text} : tool.TakesPath path ↔
    path ≠ [] ∧ path.length ≤ maxPathLength ∧ path.any CodePoint.isSurrogate = false ∧
      tool.Admits path := by
  have hcontrol : path.any CodePoint.isControl = false ↔ ∀ c ∈ path, 32 ≤ c.val := by
    simp [CodePoint.isControl]
  have hsurrogate : path.any CodePoint.isSurrogate = false ↔ ∀ c ∈ path, c.isSurrogate = false := by
    simp
  rw [Admits, hcontrol, hsurrogate, ← List.length_pos_iff]
  constructor
  · intro h
    exact ⟨h.length_pos, h.length_le, h.no_surrogate, h.shape⟩
  · rintro ⟨hpos, hle, hclean, hshape⟩
    exact ⟨hpos, hle, hclean, hshape⟩

/-- What is given for a declared name is what the tool takes there. -/
def Sound (tool : Tool) (given : Entries) (name : Text) : Prop :=
  (name = pathName → ∃ t, given.get? name = some (.str t) ∧ tool.TakesPath t.strip) ∧
    ∀ p ∈ tool.parameters, name = p.name → ∀ v, given.get? name = some v → ∃ w, p.Takes v w

/-- The problems of a call: one for each declared name that is not sound, in the order of declaration, and
then one for each unknown name, in the order given. -/
def Lists (tool : Tool) (given : Entries) (problems : List Problem) : Prop :=
  ∃ fault? : Text → Option Fault,
    (∀ name ∈ tool.argumentNames, fault? name = none ↔ tool.Sound given name) ∧
    problems =
      tool.argumentNames.filterMap
          (fun name => (fault? name).map fun fault => { place := [name], fault }) ++
        (given.names.filter (· ∉ tool.argumentNames)).map
          fun name => { place := [name], fault := .unexpected }

/-- What is wrong with what is given for a declared name. -/
def fault? (tool : Tool) (given : Entries) (name : Text) : Option Fault :=
  if name = pathName then Check.fault? none tool.checkPath (given.get? name)
  else (tool.parameters.find? (·.name = name)).bind fun p =>
    Check.fault? (some p.default) p.check (given.get? name)

theorem fault?_pathName :
    tool.fault? given pathName = Check.fault? none tool.checkPath (given.get? pathName) := if_pos rfl

theorem fault?_name {p : Parameter} (hp : p ∈ tool.parameters) :
    tool.fault? given p.name = Check.fault? (some p.default) p.check (given.get? p.name) := by
  have hfind : tool.parameters.find? (·.name = p.name) = some p := by
    cases tool <;> cases p <;> first | rfl | exact absurd hp (by decide)
  rw [fault?, if_neg p.name_ne_pathName, hfind]
  rfl

/-- What may be wrong with what is given for a declared name, apart from a path that the tool does not take.
None of it repeats what is given. -/
def plainFaults : List Fault :=
  [.missing, .notString, .notUnicode, .notBool, .unclearBool, .notLiteral (Detail.every.map Detail.name)]

theorem mem_plainFaults_of_check {p : Parameter} {v : Value} {fault : Fault}
    (h : p.check v = .error fault) : fault ∈ plainFaults := by
  cases p with
  | detailLevel =>
    rcases Check.choice_eq_error (map_eq_error_iff.mp h) with rfl | rfl <;> simp [plainFaults]
  | includeUnexported =>
    rcases Check.flag_eq_error (map_eq_error_iff.mp h) with rfl | rfl | rfl <;> simp [plainFaults]

/-- A fault at a declared name is plain, or it tells why the tool does not take the path. -/
theorem fault?_cases {name : Text} {fault : Fault} (h : tool.fault? given name = some fault) :
    fault ∈ plainFaults ∨
      (name = pathName ∧ ∃ t why, tool.tidyPath t = .error why ∧ fault = .path why) := by
  have hmissing : Fault.missing ∈ plainFaults := by simp [plainFaults]
  have hstring : Fault.notString ∈ plainFaults := by simp [plainFaults]
  unfold fault? at h
  split_ifs at h with hname
  · rcases Check.fault?_eq_some h with rfl | ⟨v, hv⟩
    · exact .inl hmissing
    · cases v with
      | str t =>
        obtain ⟨why, hwhy, rfl⟩ := mapError_eq_error_iff.mp hv
        exact .inr ⟨hname, t, why, hwhy, rfl⟩
      | _ =>
        obtain rfl : Fault.notString = fault := Except.error.inj hv
        exact .inl hstring
  · obtain ⟨p, -, hp⟩ := Option.bind_eq_some_iff.mp h
    rcases Check.fault?_eq_some hp with rfl | ⟨v, hv⟩
    · exact .inl hmissing
    · exact .inl (mem_plainFaults_of_check hv)

theorem checkPath_eq_ok_iff_takesPath {v : Value} {path : Text} :
    tool.checkPath v = .ok path ↔ ∃ t, v = .str t ∧ path = t.strip ∧ tool.TakesPath path := by
  simp only [checkPath_eq_ok_iff, tidyPath_eq_ok_iff, takesPath_iff]

theorem sound_pathName : tool.Sound given pathName ↔
    ∃ t, given.get? pathName = some (.str t) ∧ tool.TakesPath t.strip :=
  ⟨fun h => h.1 rfl, fun h => ⟨fun _ => h, fun p _ hp => absurd hp.symm p.name_ne_pathName⟩⟩

theorem sound_name {p : Parameter} (hp : p ∈ tool.parameters) : tool.Sound given p.name ↔
    ∀ v, given.get? p.name = some v → ∃ w, p.Takes v w := by
  constructor
  · intro h
    exact h.2 p hp rfl
  · intro h
    refine ⟨fun hpath => absurd hpath p.name_ne_pathName, fun q _ hq => ?_⟩
    obtain rfl := Parameter.name_injective hq
    exact h

/-- A declared name has a fault if and only if what is given for it is not sound. -/
theorem fault?_eq_none_iff {name : Text} (hname : name ∈ tool.argumentNames) :
    tool.fault? given name = none ↔ tool.Sound given name := by
  rcases List.mem_cons.mp hname with rfl | hname
  · rw [fault?_pathName, Check.fault?_eq_none_iff, sound_pathName]
    constructor
    · rintro (⟨v, path, hv, hpath⟩ | ⟨-, hnone⟩)
      · obtain ⟨t, rfl, rfl, htakes⟩ := checkPath_eq_ok_iff_takesPath.mp hpath
        exact ⟨t, hv, htakes⟩
      · cases hnone
    · rintro ⟨t, ht, htakes⟩
      exact .inl ⟨_, _, ht, checkPath_eq_ok_iff_takesPath.mpr ⟨t, rfl, rfl, htakes⟩⟩
  · obtain ⟨p, hp, rfl⟩ := List.mem_map.mp hname
    rw [fault?_name hp, Check.fault?_eq_none_iff, sound_name hp]
    cases hget : given.get? p.name with
    | none => simp
    | some v => simp [Parameter.check_eq_ok_iff]

/-- The check of a call tells the faults of the declared names and then the unknown names. -/
theorem problems_check (hnames : ∀ n ∈ given.names, n.any CodePoint.isSurrogate = false) :
    (Request.check tool given).problems =
      tool.argumentNames.filterMap
          (fun name => (tool.fault? given name).map fun fault => { place := [name], fault }) ++
        (given.names.filter (· ∉ tool.argumentNames)).map
          fun name => { place := [name], fault := .unexpected } := by
  have hparameters : ∀ p ∈ tool.parameters, (p.take given).problems =
      ((tool.fault? given p.name).map fun fault => { place := [p.name], fault }).toList := by
    intro p hp
    rw [Parameter.take, Checked.problems_map, Check.problems_field, fault?_name hp]
  have hoptions : tool.parameters.flatMap (fun p => (p.take given).problems) =
      (tool.parameters.map Parameter.name).filterMap fun name =>
        (tool.fault? given name).map fun fault => { place := [name], fault } := by
    rw [List.flatMap_congr hparameters, ← List.filterMap_eq_flatMap_toList, List.filterMap_map]
    rfl
  unfold Request.check
  dsimp only
  rw [Check.problems_record _ _ hnames, Checked.problems_map, Checked.problems_both,
    Check.problems_field, Checked.problems_all, List.flatMap_map, hoptions, ← fault?_pathName,
    argumentNames]
  cases hpath : tool.fault? given pathName with
  | none => rw [List.filterMap_cons_none (by rw [hpath, Option.map_none])]; rfl
  | some fault => rw [List.filterMap_cons_some (by rw [hpath, Option.map_some])]; rfl

/-- With declared names only, the problems are the faults of the declared names. -/
theorem problems_check_of_known (hknown : given.names ⊆ tool.argumentNames) :
    (Request.check tool given).problems = tool.argumentNames.filterMap
      fun name => (tool.fault? given name).map fun fault => { place := [name], fault } := by
  have hnames : ∀ n ∈ given.names, n.any CodePoint.isSurrogate = false :=
    fun n hn => tool.isSurrogate_argumentNames n (hknown hn)
  have hnone : given.names.filter (· ∉ tool.argumentNames) = [] :=
    List.filter_eq_nil_iff.mpr fun n hn => by simpa using hknown hn
  rw [problems_check hnames, hnone, List.map_nil, List.append_nil]

/-- The check of a call finds the problems that the call has. -/
theorem lists_problems_check (hnames : ∀ n ∈ given.names, n.any CodePoint.isSurrogate = false) :
    tool.Lists given (Request.check tool given).problems :=
  ⟨tool.fault? given, fun _ => fault?_eq_none_iff, problems_check hnames⟩

end Tool

/-! ### Calls -/

/-- The value that a parameter has in a request: the form of what is given for it, or else its default. -/
def Parameter.Settles (p : Parameter) (given : Entries) (w : Value) : Prop :=
  (∃ v, given.get? p.name = some v ∧ p.Takes v w) ∨ (given.get? p.name = none ∧ w = p.default)

/-- A request that says what its call says: the tool that is named, the path without the blanks around it,
and every parameter of the tool in order. -/
structure Request.Restates (r : Request) (operation : Value) (given : Entries) : Prop where
  operation_eq : operation = .str r.tool.name
  names_known : ∀ name ∈ given.names, name ∈ r.tool.argumentNames
  path_taken : ∃ t, given.get? Tool.pathName = some (.str t) ∧ r.path = t.strip ∧
    r.tool.TakesPath r.path
  options_settled : List.Forall₂ (fun p option => option.1 = p.name ∧ p.Settles given option.2)
    r.tool.parameters r.options

section Settling

variable {p : Parameter} {given : Entries} {w : Value}

theorem Parameter.settle_eq_ok_iff : p.settle given = .ok w ↔ p.Settles given w := by
  unfold settle Settles
  cases given.get? p.name with
  | none => simp [eq_comm]
  | some v => simp [check_eq_ok_iff]

/-- A parameter settles on some value if what is given for it, if anything, is taken. -/
theorem Parameter.exists_settles_iff : (∃ w, p.Settles given w) ↔
    ∀ v, given.get? p.name = some v → ∃ w, p.Takes v w := by
  unfold Settles
  cases given.get? p.name with
  | none => simp
  | some v => simp

end Settling

namespace Tool

theorem ofValue?_eq_some_iff {operation : Value} {tool : Tool} :
    ofValue? operation = some tool ↔ operation = .str tool.name := by
  constructor
  · intro h
    obtain ⟨t, ht, hnamed⟩ := Option.bind_eq_some_iff.mp h
    have hname := List.find?_some hnamed
    rw [beq_iff_eq] at hname
    cases operation with
    | str t' => exact congrArg Value.str ((Option.some.inj ht).trans hname.symm)
    | _ => cases ht
  · rintro rfl
    exact named?_name tool

/-- Every parameter is taken, in order, if and only if each settles on the value that it has. -/
theorem all_take_eq_ok_iff {tool : Tool} {given options : Entries} :
    Checked.all (tool.parameters.map fun p => p.take given) = .ok options ↔
      List.Forall₂ (fun p option => option.1 = p.name ∧ p.Settles given option.2)
        tool.parameters options := by
  rw [Checked.all_eq_ok_iff, ← List.forall₂_eq_eq_eq, List.forall₂_map_left_iff,
    List.forall₂_map_right_iff]
  simp only [Parameter.take_eq_ok_iff, Parameter.settle_eq_ok_iff, and_comm]

end Tool

namespace Request

variable {r : Request} {operation : Value} {given : Entries} {refusal : Refusal}

theorem ofCall_eq_ok_iff_restates : ofCall operation given = .ok r ↔ r.Restates operation given := by
  have hoptions : (∃ level all, (∀ p ∈ r.tool.parameters,
      p.settle given = .ok (p.setting level all)) ∧ r.options = r.tool.options level all) ↔
      List.Forall₂ (fun p option => option.1 = p.name ∧ p.Settles given option.2)
        r.tool.parameters r.options := by
    rw [← options_eq_ok_iff, Tool.all_take_eq_ok_iff]
  have hpath : ∀ t, r.tool.tidyPath t = .ok r.path ↔ r.path = t.strip ∧ r.tool.TakesPath r.path := by
    intro t
    rw [Tool.tidyPath_eq_ok_iff, Tool.takesPath_iff]
  rw [ofCall_eq_ok_iff, Tool.ofValue?_eq_some_iff]
  constructor
  · rintro ⟨hop, hknown, ⟨t, hget, ht⟩, hopts⟩
    exact ⟨hop, hknown, ⟨t, hget, (hpath t).mp ht⟩, hoptions.mp hopts⟩
  · rintro ⟨hop, hknown, ⟨t, hget, ht⟩, hopts⟩
    exact ⟨hop, hknown, ⟨t, hget, (hpath t).mpr ht⟩, hoptions.mpr hopts⟩

/-- A call is taken if and only if it names a tool, gives known names only, and is sound at every declared
name. -/
theorem exists_ofCall_eq_ok_iff : (∃ r, ofCall operation given = .ok r) ↔
    ∃ tool : Tool, operation = .str tool.name ∧ (∀ name ∈ given.names, name ∈ tool.argumentNames) ∧
      ∀ name ∈ tool.argumentNames, tool.Sound given name := by
  constructor
  · rintro ⟨r, hr⟩
    obtain ⟨hop, hknown, ⟨t, hget, hpath, htakes⟩, -⟩ := ofCall_eq_ok_iff_restates.mp hr
    obtain ⟨-, -, -, level, all, hsettle, -⟩ := ofCall_eq_ok_iff.mp hr
    refine ⟨r.tool, hop, hknown, fun name hname => ?_⟩
    rcases List.mem_cons.mp hname with rfl | hname
    · exact Tool.sound_pathName.mpr ⟨t, hget, hpath ▸ htakes⟩
    · obtain ⟨p, hp, rfl⟩ := List.mem_map.mp hname
      have hsettles := Parameter.settle_eq_ok_iff.mp (hsettle p hp)
      exact (Tool.sound_name hp).mpr (Parameter.exists_settles_iff.mp ⟨_, hsettles⟩)
  · rintro ⟨tool, hop, hknown, hsound⟩
    obtain ⟨t, hget, htakes⟩ := Tool.sound_pathName.mp (hsound _ List.mem_cons_self)
    have hsettles : ∀ p ∈ tool.parameters, ∃ w, p.Settles given w := fun p hp =>
      Parameter.exists_settles_iff.mpr
        ((Tool.sound_name hp).mp (hsound _ (List.mem_cons_of_mem _ (List.mem_map_of_mem hp))))
    choose! value hvalue using hsettles
    refine ⟨{ tool, path := t.strip, options := tool.parameters.map fun p => (p.name, value p) },
      ofCall_eq_ok_iff_restates.mpr ⟨hop, hknown, ⟨t, hget, rfl, htakes⟩, ?_⟩⟩
    rw [List.forall₂_map_right_iff, List.forall₂_same]
    exact fun p hp => ⟨rfl, hvalue p hp⟩

theorem ofCall_name (tool : Tool) (given : Entries) :
    ofCall (.str tool.name) given = (check tool given).mapError Refusal.badArguments := by
  rw [ofCall, Tool.ofValue?_eq_some_iff.mpr rfl]

/-- A call to a tool is refused for the problems that its check finds. -/
theorem ofCall_name_eq_error_iff {tool : Tool} : ofCall (.str tool.name) given = .error refusal ↔
    ∃ problems, check tool given = .error problems ∧ .badArguments problems = refusal := by
  rw [ofCall_name, mapError_eq_error_iff]

/-- The refusal of a call to a tool tells the problems that its check finds. -/
theorem message_of_ofCall_eq_error {tool : Tool}
    (h : ofCall (.str tool.name) given = .error refusal) :
    refusal.message = "Invalid input: " ++
      Text.join "; " ((check tool given).problems.map Problem.describe) := by
  obtain ⟨problems, hcheck, rfl⟩ := ofCall_name_eq_error_iff.mp h
  rw [hcheck]
  rfl

/-- Exactly the calls in the grammar are taken, as the request that restates them. Any other call is a
failure of the input, which lists every problem if the names given are texts. A name with a lone surrogate
is the one problem told of its call. -/
theorem ofCall_follows_grammar (operation : Value) (given : Entries) :
    ((∃ r, ofCall operation given = .ok r) ↔
      ∃ tool : Tool, operation = .str tool.name ∧
        (∀ name ∈ given.names, name ∈ tool.argumentNames) ∧
        ∀ name ∈ tool.argumentNames, tool.Sound given name) ∧
    (∀ r, ofCall operation given = .ok r ↔ r.Restates operation given) ∧
    ∀ refusal, ofCall operation given = .error refusal →
      refusal.failure.code = .invalidInput ∧
      ∀ tool : Tool, operation = .str tool.name → ∃ problems,
        refusal.failure.message =
          "Invalid input: " ++ Text.join "; " (problems.map Problem.describe) ∧
        ((∀ name ∈ given.names, name.any CodePoint.isSurrogate = false) →
          tool.Lists given problems) ∧
        ((∃ name ∈ given.names, name.any CodePoint.isSurrogate = true) →
          problems = [{ place := [], fault := .notUnicode }]) := by
  refine ⟨exists_ofCall_eq_ok_iff, fun r => ofCall_eq_ok_iff_restates, fun refusal h => ⟨rfl, ?_⟩⟩
  rintro tool rfl
  refine ⟨(check tool given).problems, message_of_ofCall_eq_error h, Tool.lists_problems_check, ?_⟩
  rintro ⟨name, hmem, hname⟩
  rw [check, Check.record_of_surrogate _ _ hmem hname, Checked.problems_error]

/-- With a name that is no text, what is wrong with the path goes untold. -/
theorem ofCall_surrogate_name_hides_path :
    ∃ refusal, ofCall (.str "get-source") [("path", .str ""), ([0xD800], .number (.int 1))] =
        .error refusal ∧
      ∀ problems, Tool.getSource.Lists [("path", .str ""), ([0xD800], .number (.int 1))] problems →
        refusal.message ≠ "Invalid input: " ++ Text.join "; " (problems.map Problem.describe) := by
  refine ⟨.badArguments [{ place := [], fault := .notUnicode }], rfl, ?_⟩
  rintro problems ⟨fault?, hfault, rfl⟩ hmessage
  have hpath : ¬ Tool.getSource.Sound [("path", .str ""), ([0xD800], .number (.int 1))]
      Tool.pathName := by
    rw [Tool.sound_pathName]
    rintro ⟨t, hget, htakes⟩
    obtain rfl : "" = t := Value.str.inj (Option.some.inj hget)
    exact absurd htakes.length_pos (by decide)
  obtain ⟨fault, hsome⟩ := Option.ne_none_iff_exists'.mp
    (mt (hfault Tool.pathName List.mem_cons_self).mp hpath)
  have htext := List.append_cancel_left hmessage
  rw [show Tool.getSource.argumentNames = [Tool.pathName] from rfl,
    List.filterMap_cons_some (by rw [hsome, Option.map_some]), List.cons_append, List.map_cons] at htext
  -- the listing starts with the name of the path, and the refusal with another letter
  obtain ⟨more, hmore⟩ := Text.exists_join_cons "; "
    (Problem.describe { place := [Tool.pathName], fault }) (List.map Problem.describe _)
  have hhead : some (CodePoint.ofChar 'I') = some (CodePoint.ofChar 'p') :=
    congrArg List.head? (htext.trans hmore)
  exact absurd hhead (by decide)

end Request

end JuliaLookup
