import JuliaLookup.Proofs.Check.Passing

/-!
# Which problems are found

A check that goes on after a fault finds the problems of all its parts, in the order of the parts. Nothing
here depends on which record is checked.
-/

namespace JuliaLookup

namespace Checked

variable {α β : Type}

@[simp] theorem problems_error (ps : List Problem) : problems (.error ps : Checked α) = ps := rfl

@[simp] theorem problems_both (a : Checked α) (b : Checked β) :
    (a.both b).problems = a.problems ++ b.problems := by
  cases a <;> cases b <;> rfl

@[simp] theorem problems_map (a : Checked α) (f : α → β) : problems (a.map f) = a.problems := by
  cases a <;> rfl

theorem problems_all (checks : List (Checked α)) : (all checks).problems = checks.flatMap problems := by
  induction checks with
  | nil => rfl
  | cons c rest ih => rw [all, problems_map, problems_both, ih, List.flatMap_cons]

end Checked

namespace Check

variable {α : Type}

/-- What is wrong with a field, by the value that is given for it, if one is. -/
def fault? (default : Option α) (check : Value → Except Fault α) : Option Value → Option Fault
  | some v => match check v with
    | .ok _ => none
    | .error fault => some fault
  | none => if default.isSome then none else some .missing

theorem fault?_eq_none_iff {default : Option α} {check : Value → Except Fault α} {v : Option Value} :
    fault? default check v = none ↔
      (∃ w a, v = some w ∧ check w = .ok a) ∨ (v = none ∧ default.isSome = true) := by
  cases v with
  | none => cases default <;> simp [fault?]
  | some w => cases h : check w <;> simp [fault?, h]

/-- A field is missing, or its check says what is wrong. -/
theorem fault?_eq_some {default : Option α} {check : Value → Except Fault α} {v : Option Value}
    {fault : Fault} (h : fault? default check v = some fault) :
    fault = .missing ∨ ∃ w, check w = .error fault := by
  cases v with
  | none =>
    cases default with
    | none => exact .inl (Option.some.inj h).symm
    | some a => cases h
  | some w =>
    rw [fault?] at h
    cases hcheck : check w with
    | ok a =>
      rw [hcheck] at h
      cases h
    | error f =>
      rw [hcheck] at h
      obtain rfl := Option.some.inj h
      exact .inr ⟨w, hcheck⟩

/-- A field has one problem at most. -/
theorem problems_field (name : Text) (default : Option α) (check : Value → Except Fault α)
    (given : Entries) : (field name default check given).problems =
      ((fault? default check (given.get? name)).map fun fault => { place := [name], fault }).toList := by
  unfold field fault?
  cases given.get? name with
  | none => cases default <;> rfl
  | some v =>
    dsimp only
    cases check v <;> rfl

theorem problems_nothingElse (known : List Text) (given : Entries) :
    (nothingElse known given).problems =
      (given.names.filter (· ∉ known)).map fun name => { place := [name], fault := .unexpected } := by
  unfold nothingElse
  cases given.names.filter (· ∉ known) <;> rfl

/-- A record has the problems of its fields, and then one for each unknown name. -/
theorem problems_record (known : List Text) (fields : Checked α) {given : Entries}
    (hnames : ∀ n ∈ given.names, n.any CodePoint.isSurrogate = false) :
    (record known fields given).problems = fields.problems ++
      (given.names.filter (· ∉ known)).map fun name => { place := [name], fault := .unexpected } := by
  have hclean : given.names.any (·.any CodePoint.isSurrogate) = false := by
    simpa using hnames
  rw [record, hclean, if_neg Bool.false_ne_true, Checked.problems_map, Checked.problems_both,
    problems_nothingElse]

/-- A name with a lone surrogate is the only problem that its record is said to have. -/
theorem record_of_surrogate (known : List Text) (fields : Checked α) {given : Entries} {name : Text}
    (hmem : name ∈ given.names) (hname : name.any CodePoint.isSurrogate = true) :
    record known fields given = .error [{ place := [], fault := .notUnicode }] :=
  if_pos (List.any_eq_true.mpr ⟨name, hmem, hname⟩)

end Check

end JuliaLookup
