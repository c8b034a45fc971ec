import JuliaLookup.Proofs.Check.Passing
import Mathlib.Data.List.Basic
import Mathlib.Tactic.Choose
import JuliaLookup.Request

/-!
# Accepted calls

When a call is taken, and which request it makes. The arguments are known names only, the path is tidy
once its blanks are off, and every parameter of the tool settles on a value, given or not. Main
statement: `Request.ofCall` accepts exactly the calls that a request `Reads`.
-/

namespace JuliaLookup

/-! ### Parameters -/

namespace Parameter

variable {p : Parameter} {given : Entries} {v : Value}

/-- What a parameter comes to in a call: its checked value if it is given, its default if not. -/
def settle (p : Parameter) (given : Entries) : Except Fault Value :=
  match given.get? p.name with
  | some v => p.check v
  | none => .ok p.default

/-- A parameter as it stands in a request, at a level of detail and with or without what is not
exported. -/
def setting (level : Detail) (all : Bool) : Parameter → Value
  | detailLevel => level.name
  | includeUnexported => all

theorem take_eq_ok_iff {entry : Text × Value} :
    p.take given = .ok entry ↔ p.settle given = .ok entry.2 ∧ entry.1 = p.name := by
  obtain ⟨name, v⟩ := entry
  have hfield : Check.field p.name (some p.default) p.check given = .ok v ↔
      p.settle given = .ok v := by
    rw [Check.field_eq_ok_iff, settle]
    cases given.get? p.name <;> simp
  rw [take, map_eq_ok_iff, ← hfield]
  constructor
  · rintro ⟨w, hw, he⟩
    obtain ⟨rfl, rfl⟩ := Prod.mk.inj he
    exact ⟨hw, rfl⟩
  · rintro ⟨hv, rfl⟩
    exact ⟨v, hv, rfl⟩

theorem check_detailLevel {w : Value} (h : detailLevel.check w = .ok v) :
    ∃ level : Detail, v = .str level.name := by
  obtain ⟨level, -, rfl⟩ := map_eq_ok_iff.mp h
  exact ⟨level, rfl⟩

theorem check_includeUnexported {w : Value} (h : includeUnexported.check w = .ok v) :
    ∃ all, v = .bool all := by
  obtain ⟨all, -, rfl⟩ := map_eq_ok_iff.mp h
  exact ⟨all, rfl⟩

/-- A level of detail always settles on the name of a level. -/
theorem settle_detailLevel (h : detailLevel.settle given = .ok v) :
    ∃ level : Detail, v = .str level.name := by
  unfold settle at h
  split at h
  · exact check_detailLevel h
  · exact ⟨.full, (Except.ok.inj h).symm⟩

/-- The wish for what is not exported always settles on a truth value. -/
theorem settle_includeUnexported (h : includeUnexported.settle given = .ok v) :
    ∃ all, v = .bool all := by
  unfold settle at h
  split at h
  · exact check_includeUnexported h
  · exact ⟨false, (Except.ok.inj h).symm⟩

end Parameter

namespace Tool

/-- The options of a request to a tool, at a level of detail and with or without what is not
exported. -/
def options (tool : Tool) (level : Detail) (all : Bool) : Entries :=
  tool.parameters.map fun p => (p.name, p.setting level all)

/-- If every parameter of a tool settles, they settle on its options at one level. -/
theorem exists_settle_eq_setting {tool : Tool} {given : Entries} {value : Parameter → Value}
    (h : ∀ p ∈ tool.parameters, p.settle given = .ok (value p)) :
    ∃ level all, ∀ p ∈ tool.parameters, value p = p.setting level all := by
  have hlevel : ∃ level : Detail, .detailLevel ∈ tool.parameters →
      value .detailLevel = .str level.name := by
    by_cases hp : .detailLevel ∈ tool.parameters
    · obtain ⟨level, hv⟩ := Parameter.settle_detailLevel (h _ hp)
      exact ⟨level, fun _ => hv⟩
    · exact ⟨.full, fun hp' => absurd hp' hp⟩
  have hall : ∃ all, .includeUnexported ∈ tool.parameters →
      value .includeUnexported = .bool all := by
    by_cases hp : .includeUnexported ∈ tool.parameters
    · obtain ⟨all, hv⟩ := Parameter.settle_includeUnexported (h _ hp)
      exact ⟨all, fun _ => hv⟩
    · exact ⟨false, fun hp' => absurd hp' hp⟩
  obtain ⟨level, hlevel⟩ := hlevel
  obtain ⟨all, hall⟩ := hall
  refine ⟨level, all, fun p hp => ?_⟩
  cases p with
  | detailLevel => exact hlevel hp
  | includeUnexported => exact hall hp

/-! ### Paths -/

theorem isSurrogate_argumentNames (tool : Tool) :
    ∀ n ∈ tool.argumentNames, n.any CodePoint.isSurrogate = false := by
  cases tool <;> decide

/-- What a tool asks of the characters of a path. -/
def Admits (tool : Tool) (path : Text) : Prop :=
  if tool = .exploreProject then path.any CodePoint.isControl = false
  else SymbolPath.isValid path = true

theorem tidyPath_eq_ok_iff {tool : Tool} {t path : Text} : tool.tidyPath t = .ok path ↔
    path = t.strip ∧ path ≠ [] ∧ path.length ≤ maxPathLength ∧
      path.any CodePoint.isSurrogate = false ∧ tool.Admits path := by
  unfold tidyPath Admits
  dsimp only
  constructor
  · intro h
    split_ifs at h with hempty hlong hsur htool hcontrol hvalid <;> cases h <;>
      simp_all
  · rintro ⟨rfl, hne, hlen, hsur, hadmits⟩
    have hempty : t.strip.isEmpty = false := by simpa using hne
    rw [if_neg (by simp [hempty]), if_neg (by omega), if_neg (by simp [hsur])]
    split_ifs at hadmits ⊢ <;> simp_all

theorem checkPath_eq_ok_iff {tool : Tool} {v : Value} {path : Text} :
    tool.checkPath v = .ok path ↔ ∃ t, v = .str t ∧ tool.tidyPath t = .ok path := by
  cases v with
  | str t => simp [checkPath, Check.text]
  | _ => simp [checkPath, Check.text]

end Tool

/-! ### Requests -/

namespace Request

/-- The arguments of a call, read as a request to its tool. -/
structure Reads (r : Request) (given : Entries) : Prop where
  names_known : given.names ⊆ r.tool.argumentNames
  path_tidy : ∃ t, given.get? Tool.pathName = some (.str t) ∧ r.tool.tidyPath t = .ok r.path
  options_settled : ∃ level all, (∀ p ∈ r.tool.parameters,
    p.settle given = .ok (p.setting level all)) ∧ r.options = r.tool.options level all

theorem options_eq_ok_iff {tool : Tool} {given options : Entries} :
    Checked.all (tool.parameters.map fun p => p.take given) = .ok options ↔
      ∃ level all, (∀ p ∈ tool.parameters, p.settle given = .ok (p.setting level all)) ∧
        options = tool.options level all := by
  rw [Checked.all_eq_ok_iff]
  constructor
  · intro h
    have hval : ∀ p ∈ tool.parameters, ∃ v, p.settle given = .ok v ∧ p.take given = .ok (p.name, v) := by
      intro p hp
      have hmem : p.take given ∈ options.map Except.ok := h ▸ List.mem_map_of_mem hp
      obtain ⟨entry, -, he⟩ := List.mem_map.mp hmem
      obtain ⟨hs, hn⟩ := Parameter.take_eq_ok_iff.mp he.symm
      exact ⟨entry.2, hs, by rw [← he, ← hn]⟩
    choose! value hsettle htake using hval
    obtain ⟨level, all, hset⟩ := Tool.exists_settle_eq_setting hsettle
    refine ⟨level, all, fun p hp => by rw [hsettle p hp, hset p hp], ?_⟩
    have hlist : options.map (Except.ok (ε := List Problem)) =
        (tool.options level all).map Except.ok := by
      rw [← h, Tool.options, List.map_map]
      refine List.map_congr_left fun p hp => ?_
      rw [htake p hp, hset p hp]
      rfl
    exact List.map_injective_iff.mpr (fun a b => Except.ok.inj) hlist
  · rintro ⟨level, all, hsettle, rfl⟩
    rw [Tool.options, List.map_map]
    refine List.map_congr_left fun p hp => ?_
    exact Parameter.take_eq_ok_iff.mpr ⟨hsettle p hp, rfl⟩

theorem check_eq_ok_iff {tool : Tool} {given : Entries} {r : Request} :
    check tool given = .ok r ↔ r.tool = tool ∧ r.Reads given := by
  unfold check
  dsimp only
  rw [Check.record_eq_ok_iff tool.isSurrogate_argumentNames, map_eq_ok_iff]
  constructor
  · rintro ⟨⟨⟨path, options⟩, hboth, rfl⟩, hnames⟩
    obtain ⟨hpath, hopts⟩ := Checked.both_eq_ok_iff.mp hboth
    obtain ⟨v, hget, hv⟩ | ⟨-, hnone⟩ := Check.field_eq_ok_iff.mp hpath
    · obtain ⟨t, rfl, ht⟩ := Tool.checkPath_eq_ok_iff.mp hv
      exact ⟨rfl, hnames, ⟨t, hget, ht⟩, options_eq_ok_iff.mp hopts⟩
    · cases hnone
  · rintro ⟨rfl, hnames, ⟨t, hget, ht⟩, hopts⟩
    refine ⟨⟨(r.path, r.options), Checked.both_eq_ok_iff.mpr ⟨?_, ?_⟩, rfl⟩, hnames⟩
    · exact Check.field_eq_ok_iff.mpr (.inl ⟨.str t, hget, Tool.checkPath_eq_ok_iff.mpr ⟨t, rfl, ht⟩⟩)
    · exact options_eq_ok_iff.mpr hopts

/-- A call makes a request if and only if it names the tool of the request and its arguments read as
the request. -/
theorem ofCall_eq_ok_iff {operation : Value} {given : Entries} {r : Request} :
    ofCall operation given = .ok r ↔ Tool.ofValue? operation = some r.tool ∧ r.Reads given := by
  unfold ofCall
  cases hop : Tool.ofValue? operation with
  | none => simp
  | some tool =>
    simp only [mapError_eq_ok_iff, check_eq_ok_iff, Option.some.injEq]
    exact and_congr_left' eq_comm

end Request

end JuliaLookup
