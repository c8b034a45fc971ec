import JuliaLookup.Proofs.Request.Acceptance

/-!
# Calls that say the same

A call can be put in other words: its arguments in another order, a default said or left out, other
blanks around the path, another spelling of a truth value. Main statement: calls in other words are read
as the same requests.
-/

namespace JuliaLookup

namespace Entries

variable {given given' : Entries} {name : Text} {v : Value}

@[simp] theorem get?_cons_self : get? ((name, v) :: given) name = some v := if_pos rfl

theorem get?_cons_of_ne {other : Text} (h : other ≠ name) :
    get? ((other, v) :: given) name = given.get? name := if_neg h

theorem mem_of_get?_eq_some (h : given.get? name = some v) : (name, v) ∈ given := by
  induction given with
  | nil => cases h
  | cons e rest ih =>
    obtain ⟨n, w⟩ := e
    by_cases hn : n = name
    · subst hn
      rw [get?_cons_self, Option.some.injEq] at h
      exact h ▸ List.mem_cons_self
    · rw [get?_cons_of_ne hn] at h
      exact List.mem_cons_of_mem _ (ih h)

/-- Where no name occurs twice, every entry is found under its name. -/
theorem get?_eq_some_of_mem (hnames : given.names.Nodup) (h : (name, v) ∈ given) :
    given.get? name = some v := by
  induction given with
  | nil => cases h
  | cons e rest ih =>
    obtain ⟨n, w⟩ := e
    rw [names, List.map_cons, List.nodup_cons] at hnames
    rcases List.mem_cons.mp h with heq | hmem
    · obtain ⟨rfl, rfl⟩ := Prod.mk.inj heq
      exact get?_cons_self
    · have hne : n ≠ name := by
        rintro rfl
        exact hnames.1 (List.mem_map.mpr ⟨_, hmem, rfl⟩)
      rw [get?_cons_of_ne hne]
      exact ih hnames.2 hmem

theorem get?_perm (hnames : given.names.Nodup) (h : given.Perm given') (name : Text) :
    given.get? name = given'.get? name := by
  have hnames' : given'.names.Nodup := (h.map Prod.fst).nodup_iff.mp hnames
  apply Option.ext
  intro v
  constructor
  · intro hv
    exact get?_eq_some_of_mem hnames' (h.mem_iff.mp (mem_of_get?_eq_some hv))
  · intro hv
    exact get?_eq_some_of_mem hnames (h.mem_iff.mpr (mem_of_get?_eq_some hv))

end Entries

namespace Parameter

theorem name_ne_pathName (p : Parameter) : p.name ≠ Tool.pathName := by
  cases p <;> decide

theorem name_injective {p q : Parameter} (h : p.name = q.name) : p = q := by
  cases p <;> cases q <;> first | rfl | exact absurd h (by decide)

/-- A default passes its own check, and stays as it is. -/
theorem check_default (p : Parameter) : p.check p.default = .ok p.default := by
  cases p <;> rfl

theorem settle_cons_of_ne {p : Parameter} {name : Text} {v : Value} {given : Entries}
    (h : name ≠ p.name) : p.settle ((name, v) :: given) = p.settle given := by
  rw [settle, settle, Entries.get?_cons_of_ne h]

theorem settle_cons_self {p : Parameter} {v : Value} {given : Entries} :
    p.settle ((p.name, v) :: given) = p.check v := by
  rw [settle, Entries.get?_cons_self]

end Parameter

namespace Request

/-- The arguments of one call to a tool put in other words. -/
inductive Rephrased (tool : Tool) : Entries → Entries → Prop where
  /-- The arguments come in another order. No name is given twice. -/
  | reorder {given given' : Entries} (names : given.names.Nodup) (h : given.Perm given') :
    Rephrased tool given given'
  /-- A parameter that was left out is given its default. -/
  | sayDefault {given : Entries} {p : Parameter} (known : p ∈ tool.parameters)
    (absent : given.get? p.name = none) : Rephrased tool given ((p.name, p.default) :: given)
  /-- The path has other blanks around it. -/
  | pad {rest : Entries} {t t' : Text} (h : t.strip = t'.strip) :
    Rephrased tool ((Tool.pathName, .str t) :: rest) ((Tool.pathName, .str t') :: rest)
  /-- A truth value is spelled in another way. -/
  | respell {rest : Entries} {v v' : Value} {all : Bool} (h : Check.flag v = .ok all)
    (h' : Check.flag v' = .ok all) :
    Rephrased tool ((Parameter.includeUnexported.name, v) :: rest)
      ((Parameter.includeUnexported.name, v') :: rest)
  | symm {given given' : Entries} (h : Rephrased tool given given') : Rephrased tool given' given
  | trans {given given' given'' : Entries} (h : Rephrased tool given given')
    (h' : Rephrased tool given' given'') : Rephrased tool given given''

variable {r : Request} {given given' : Entries}

/-- What a request reads off its arguments: which names there are, the tidied path, and what every
parameter settles on. -/
theorem reads_congr (hnames : given.names ⊆ r.tool.argumentNames ↔
      given'.names ⊆ r.tool.argumentNames)
    (hpath : (∃ t, given.get? Tool.pathName = some (.str t) ∧ r.tool.tidyPath t = .ok r.path) ↔
      ∃ t, given'.get? Tool.pathName = some (.str t) ∧ r.tool.tidyPath t = .ok r.path)
    (hsettle : ∀ p ∈ r.tool.parameters, p.settle given = p.settle given') :
    r.Reads given ↔ r.Reads given' := by
  constructor
  · rintro ⟨h, hp, level, all, hset, hopts⟩
    exact ⟨hnames.mp h, hpath.mp hp, level, all, fun p hp => hsettle p hp ▸ hset p hp, hopts⟩
  · rintro ⟨h, hp, level, all, hset, hopts⟩
    exact ⟨hnames.mpr h, hpath.mpr hp, level, all, fun p hp => hsettle p hp ▸ hset p hp, hopts⟩

theorem names_cons_subset {name : Text} {v : Value} {known : List Text} :
    Entries.names ((name, v) :: given) ⊆ known ↔ name ∈ known ∧ given.names ⊆ known :=
  List.cons_subset

theorem tidyPath_congr {tool : Tool} {t t' : Text} (h : t.strip = t'.strip) :
    tool.tidyPath t = tool.tidyPath t' := by
  rw [Tool.tidyPath, Tool.tidyPath, h]

/-- Calls in other words are read as the same requests. -/
theorem reads_iff_of_rephrased (h : Rephrased r.tool given given') :
    r.Reads given ↔ r.Reads given' := by
  induction h with
  | @reorder given given' hnodup hperm =>
    have hget := Entries.get?_perm hnodup hperm
    have hnames : given.names.Perm given'.names := hperm.map Prod.fst
    refine reads_congr ⟨fun h => ?_, fun h => ?_⟩ ?_ ?_
    · intro name hname
      exact h (hnames.symm.subset hname)
    · intro name hname
      exact h (hnames.subset hname)
    · rw [hget]
    · intro p _
      rw [Parameter.settle, Parameter.settle, hget]
  | @sayDefault given p hp habsent =>
    have hknown : p.name ∈ r.tool.argumentNames :=
      List.mem_cons_of_mem _ (List.mem_map_of_mem hp)
    refine reads_congr ?_ ?_ ?_
    · rw [names_cons_subset]
      exact ⟨fun h => ⟨hknown, h⟩, fun h => h.2⟩
    · rw [Entries.get?_cons_of_ne p.name_ne_pathName]
    · intro q _
      by_cases hq : p = q
      · subst hq
        rw [Parameter.settle_cons_self, Parameter.check_default, Parameter.settle, habsent]
      · rw [Parameter.settle_cons_of_ne fun hname => hq (Parameter.name_injective hname)]
  | @pad rest t t' hstrip =>
    refine reads_congr ?_ ?_ ?_
    · rw [names_cons_subset, names_cons_subset]
    · simp only [Entries.get?_cons_self, Option.some.injEq, Value.str.injEq]
      simp only [exists_eq_left', tidyPath_congr hstrip]
    · intro p _
      rw [Parameter.settle_cons_of_ne p.name_ne_pathName.symm,
        Parameter.settle_cons_of_ne p.name_ne_pathName.symm]
  | @respell rest v v' all hv hv' =>
    refine reads_congr ?_ ?_ ?_
    · rw [names_cons_subset, names_cons_subset]
    · rw [Entries.get?_cons_of_ne (Parameter.name_ne_pathName _),
        Entries.get?_cons_of_ne (Parameter.name_ne_pathName _)]
    · intro p _
      by_cases hp : Parameter.includeUnexported = p
      · subst hp
        rw [Parameter.settle_cons_self, Parameter.settle_cons_self, Parameter.check,
          Parameter.check, hv, hv']
      · have hname : Parameter.includeUnexported.name ≠ p.name :=
          fun hname => hp (Parameter.name_injective hname)
        rw [Parameter.settle_cons_of_ne hname, Parameter.settle_cons_of_ne hname]
  | symm _ ih => exact ih.symm
  | trans _ _ ih ih' => exact ih.trans ih'

end Request

end JuliaLookup
