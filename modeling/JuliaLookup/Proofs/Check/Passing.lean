import JuliaLookup.Check.Scalar

/-!
# When checks pass

One rule for every check that builds up a checked record: it passes with a value if and only if its
parts pass with the parts of the value. Nothing here depends on which record is checked.
-/

namespace JuliaLookup

section Results

variable {ε ε' α β : Type} {x : Except ε α}

theorem map_eq_ok_iff {f : α → β} {b : β} : x.map f = .ok b ↔ ∃ a, x = .ok a ∧ f a = b := by
  cases x with
  | ok a => simp [Except.map]
  | error e => simp [Except.map]

@[simp] theorem mapError_eq_ok_iff {f : ε → ε'} {a : α} : x.mapError f = .ok a ↔ x = .ok a := by
  cases x with
  | ok b =>
    show (Except.ok b : Except ε' α) = .ok a ↔ _
    rw [Except.ok.injEq, Except.ok.injEq]
  | error e =>
    constructor
    · intro h
      cases h
    · intro h
      cases h

theorem map_eq_error_iff {f : α → β} {e : ε} : x.map f = .error e ↔ x = .error e := by
  cases x with
  | ok a => simp [Except.map]
  | error e' => simp [Except.map]

theorem mapError_eq_error_iff {f : ε → ε'} {e' : ε'} :
    x.mapError f = .error e' ↔ ∃ e, x = .error e ∧ f e = e' := by
  cases x with
  | ok a =>
    constructor
    · intro h
      cases h
    · rintro ⟨e, h, -⟩
      cases h
  | error e =>
    show (Except.error (f e) : Except ε' α) = .error e' ↔ _
    rw [Except.error.injEq]
    constructor
    · exact fun h => ⟨e, rfl, h⟩
    · rintro ⟨_, h, hf⟩
      cases h
      exact hf

end Results

section Checked

variable {α : Type}

/-- A list of checks passes with the values that they pass with one by one. -/
theorem Checked.all_eq_ok_iff {checks : List (Checked α)} {values : List α} :
    Checked.all checks = .ok values ↔ checks = values.map .ok := by
  induction checks generalizing values with
  | nil => cases values <;> simp [Checked.all]
  | cons c rest ih =>
    rw [Checked.all, map_eq_ok_iff]
    constructor
    · rintro ⟨⟨x, xs⟩, hboth, rfl⟩
      obtain ⟨hc, hrest⟩ := Checked.both_eq_ok_iff.mp hboth
      rw [hc, ih.mp hrest]
      rfl
    · intro h
      cases values with
      | nil => simp at h
      | cons x xs =>
        obtain ⟨hc, hrest⟩ := List.cons.inj h
        exact ⟨(x, xs), Checked.both_eq_ok_iff.mpr ⟨hc, ih.mpr hrest⟩, rfl⟩

end Checked

namespace Check

variable {α : Type} {name : Text} {default : Option α} {check : Value → Except Fault α}
  {given : Entries} {known : List Text} {fields : Checked α} {a : α}

theorem field_eq_ok_iff : field name default check given = .ok a ↔
    (∃ v, given.get? name = some v ∧ check v = .ok a) ∨
      (given.get? name = none ∧ default = some a) := by
  unfold field
  cases hget : given.get? name with
  | some v => simp
  | none => cases default <;> simp

theorem nothingElse_eq_ok_iff : nothingElse known given = .ok () ↔ given.names ⊆ known := by
  have hsub : given.names ⊆ known ↔ given.names.filter (· ∉ known) = [] := by
    simp [List.filter_eq_nil_iff, List.subset_def]
  rw [hsub, nothingElse]
  cases given.names.filter (· ∉ known) <;> simp

/-- A record passes if its fields do and nothing unknown is given. Unknown names spoil a record in more
than one way, so this asks that no known name holds a lone surrogate. -/
theorem record_eq_ok_iff (hknown : ∀ n ∈ known, n.any CodePoint.isSurrogate = false) :
    record known fields given = .ok a ↔ fields = .ok a ∧ given.names ⊆ known := by
  unfold record
  split
  case isTrue h =>
    obtain ⟨n, hn, hsur⟩ := List.any_eq_true.mp h
    have hout : ¬ given.names ⊆ known := by
      intro hsub
      rw [hknown n (hsub hn)] at hsur
      exact Bool.false_ne_true hsur
    simp [hout]
  case isFalse h =>
    rw [map_eq_ok_iff]
    constructor
    · rintro ⟨⟨x, u⟩, hboth, rfl⟩
      obtain ⟨hfields, hrest⟩ := Checked.both_eq_ok_iff.mp hboth
      exact ⟨hfields, nothingElse_eq_ok_iff.mp hrest⟩
    · rintro ⟨hfields, hsub⟩
      exact ⟨(a, ()), Checked.both_eq_ok_iff.mpr ⟨hfields, nothingElse_eq_ok_iff.mpr hsub⟩, rfl⟩

/-- Nothing is wrong with known names. -/
theorem record_of_known (hknown : ∀ n ∈ known, n.any CodePoint.isSurrogate = false)
    (h : given.names ⊆ known) : record known fields given = fields := by
  have hclean : ¬ given.names.any (·.any CodePoint.isSurrogate) = true := by
    rw [List.any_eq_true]
    rintro ⟨n, hn, hsurrogate⟩
    rw [hknown n (h hn)] at hsurrogate
    cases hsurrogate
  rw [record, if_neg hclean, nothingElse_eq_ok_iff.mpr h]
  cases fields <;> simp [Checked.both, Checked.problems, Except.map]

end Check

end JuliaLookup
