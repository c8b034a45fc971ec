import JuliaLookup.Proofs.Settings.Sections
import JuliaLookup.Settings.Sources

/-!
# What variables set

Where no variable sets a whole section, and every one that sets a field sets a declared one, the environment
gives each section the texts of its last variables, one for each field. Variables of any other name may be
there as well.
-/

namespace JuliaLookup

namespace Environment

/-- What the name of every variable for a field of a section starts with, whatever its case. -/
def lead (sec : Section) : Text := "juliadoc__" ++ sec.name ++ "__"

/-- What variables set for a field: the text of the last one for it. -/
def sets? (env : Environment) (sec : Section) (name : Text) : Option Value :=
  ((env.filter (·.1.lower = lead sec ++ name)).getLast?).map fun e => .str e.2

/-- No variable sets a whole section, and those that set fields set declared ones. -/
structure Flat (env : Environment) : Prop where
  no_section : ∀ e ∈ env, ∀ sec : Section, e.1.lower ≠ "juliadoc__" ++ sec.name
  declared : ∀ e ∈ env, ∀ (sec : Section) (name : Text), e.1.lower = lead sec ++ name →
    name ∈ sec.fieldNames

variable {env : Environment} {sec : Section} {vs : Entries} {name : Text} {e : Text × Value}

theorem sectionName_eq (sec : Section) : ({} : Naming).sectionName sec = "juliadoc__" ++ sec.name := by
  cases sec <;> decide

/-- The name of a declared field has one part. -/
theorem place_of_mem (h : name ∈ sec.fieldNames) : ({} : Naming).place name = [name] := by
  have hplace : ∀ s ∈ Section.every, ∀ n ∈ s.fieldNames, ({} : Naming).place n = [n] := by decide
  exact hplace sec sec.mem_every name h

/-- Whether variables are flat can be told from their names in lower case. -/
theorem flat_of_forall (h : ∀ e ∈ env, ∀ sec ∈ Section.every, e.1.lower ≠ "juliadoc__" ++ sec.name ∧
    (Text.after? (lead sec) e.1.lower).all (· ∈ sec.fieldNames) = true) : env.Flat where
  no_section e he sec := (h e he sec sec.mem_every).1
  declared := by
    intro e he sec name hname
    have hdeclared := (h e he sec sec.mem_every).2
    rw [Text.after?_eq_some_iff.mpr hname] at hdeclared
    exact of_decide_eq_true hdeclared

/-! ### Known names -/

theorem values_eq (env : Environment) :
    env.values {} = Entries.insertAll [] (env.map fun e => (e.1.lower, .str e.2)) := by
  unfold values
  simp [Naming.fold]

theorem nodup_names_values (env : Environment) : (env.values {}).names.Nodup := by
  have hempty : (Entries.names []).Nodup := List.nodup_nil
  rw [values_eq]
  exact Entries.nodup_names_insertAll hempty _

theorem get?_values (env : Environment) (name : Text) :
    (env.values {}).get? name = ((env.filter (·.1.lower = name)).getLast?).map fun e => .str e.2 := by
  rw [values_eq, Entries.get?_insertAll, List.filter_map, List.getLast?_map, Option.map_map]
  simp [Function.comp_def]

theorem mem_values (h : e ∈ env.values {}) : ∃ d ∈ env, e = (d.1.lower, .str d.2) := by
  rw [values_eq] at h
  obtain ⟨d, hd, rfl⟩ := List.mem_map.mp (Entries.mem_of_mem_insertAll h)
  exact ⟨d, hd, rfl⟩

/-! ### Fields -/

/-- The values under names with a lead, without it. -/
def below (lead : Text) (vs : Entries) : Entries :=
  vs.filterMap fun e => (Text.after? lead e.1).map (·, e.2)

theorem get?_below (lead : Text) (vs : Entries) (name : Text) :
    (below lead vs).get? name = vs.get? (lead ++ name) := by
  induction vs with
  | nil => rfl
  | cons e rest ih =>
    obtain ⟨n, v⟩ := e
    cases hafter : Text.after? lead n with
    | none =>
      have hne : n ≠ lead ++ name := by
        intro hn
        rw [Text.after?_eq_some_iff.mpr hn] at hafter
        cases hafter
      rw [Entries.get?_cons_of_ne hne, ← ih, below, List.filterMap_cons_none (by rw [hafter]; rfl)]
      rfl
    | some tail =>
      have hn := Text.after?_eq_some_iff.mp hafter
      rw [below, List.filterMap_cons_some (by rw [hafter]; rfl), ← below]
      by_cases htail : tail = name
      · rw [hn, htail, Entries.get?_cons_self, Entries.get?_cons_self]
      · have hne : n ≠ lead ++ name := by
          rw [hn]
          exact fun heq => htail (List.append_cancel_left heq)
        rw [Entries.get?_cons_of_ne htail, Entries.get?_cons_of_ne hne, ih]

theorem nodup_names_below (h : vs.names.Nodup) (lead : Text) : (below lead vs).names.Nodup := by
  have hnames : (below lead vs).names = vs.names.filterMap (Text.after? lead) := by
    rw [Entries.names, below, List.map_filterMap, Entries.names, List.filterMap_map]
    congr 1
    funext e
    simp [Function.comp_def]
  rw [hnames]
  refine h.filterMap fun n n' tail hn hn' => ?_
  rw [Text.after?_eq_some_iff.mp hn, Text.after?_eq_some_iff.mp hn']

theorem mem_of_mem_below {lead : Text} {v : Value} (h : (name, v) ∈ below lead vs) :
    (lead ++ name, v) ∈ vs := by
  obtain ⟨⟨n, w⟩, hmem, hentry⟩ := List.mem_filterMap.mp h
  obtain ⟨tail, hafter, heq⟩ := Option.map_eq_some_iff.mp hentry
  obtain ⟨rfl, rfl⟩ := Prod.mk.inj heq
  rwa [← Text.after?_eq_some_iff.mp hafter]

/-- Texts for declared fields are inserted one after another. -/
theorem foldl_insertAt_eq (vs entries : Entries) (htext : ∀ e ∈ vs, ∃ t, e.2 = .str t)
    (hdeclared : ∀ e ∈ vs, ∀ name, e.1 = lead sec ++ name → name ∈ sec.fieldNames) :
    vs.foldl (fun entries e =>
        match Text.after? (lead sec) e.1 with
        | some rest => entries.insertAt e.2 (({} : Naming).place rest)
        | none => entries) entries = entries.insertAll (below (lead sec) vs) := by
  induction vs generalizing entries with
  | nil => rfl
  | cons e rest ih =>
    have htext' : ∀ e ∈ rest, ∃ t, e.2 = .str t := fun d hd => htext d (List.mem_cons_of_mem e hd)
    have hdeclared' : ∀ e ∈ rest, ∀ name, e.1 = lead sec ++ name → name ∈ sec.fieldNames :=
      fun d hd => hdeclared d (List.mem_cons_of_mem e hd)
    rw [List.foldl_cons, ih _ htext' hdeclared']
    cases hafter : Text.after? (lead sec) e.1 with
    | none => rw [below, below, List.filterMap_cons_none (by rw [hafter]; rfl)]
    | some name =>
      obtain ⟨t, ht⟩ := htext e List.mem_cons_self
      have hname := hdeclared e List.mem_cons_self name (Text.after?_eq_some_iff.mp hafter)
      have hinsert : entries.insertAt e.2 (({} : Naming).place name) = entries.insert name e.2 := by
        rw [place_of_mem hname, ht]
        rfl
      rw [below, below, List.filterMap_cons_some (by rw [hafter]; rfl)]
      dsimp only
      rw [hinsert]
      rfl

/-- Declared names are known as they are. -/
theorem withNames_of_fits (h : sec.Fits vs) : vs.withNames sec.fieldNames = vs := by
  have hfind : ∀ s ∈ Section.every, ∀ n ∈ s.fieldNames,
      (s.fieldNames.find? (·.asciiLower == n.asciiLower)).getD n = n := by decide
  have hself : vs.map (fun e =>
      ((sec.fieldNames.find? (·.asciiLower == e.1.asciiLower)).getD e.1, e.2)) = vs := by
    refine (List.map_congr_left fun e he => ?_).trans (List.map_id vs)
    have hname : e.1 ∈ sec.fieldNames := h.known (List.mem_map_of_mem he)
    rw [hfind sec sec.mem_every e.1 hname]
    rfl
  have hinsert := Entries.insertAll_nil_of_nodup h.nodup
  rw [← hself] at hinsert
  exact hinsert.trans hself

/-! ### Sections -/

/-- The fields of a section that are set, with their texts. -/
def texts (env : Environment) (sec : Section) : Entries := below (lead sec) (env.values {})

/-- A section, if any field of it is set. -/
def section? (env : Environment) (sec : Section) : Option Value :=
  if (env.texts sec).isEmpty then none else some (.object (env.texts sec))

theorem get?_texts (env : Environment) (sec : Section) (name : Text) :
    (env.texts sec).get? name = env.sets? sec name := by
  rw [texts, get?_below, get?_values, sets?]

theorem nodup_names_texts (env : Environment) (sec : Section) : (env.texts sec).names.Nodup :=
  nodup_names_below (nodup_names_values env) (lead sec)

theorem mem_texts {v : Value} (h : (name, v) ∈ env.texts sec) :
    ∃ d ∈ env, d.1.lower = lead sec ++ name ∧ v = .str d.2 := by
  obtain ⟨d, hd, heq⟩ := mem_values (mem_of_mem_below h)
  obtain ⟨hname, hv⟩ := Prod.mk.inj heq
  exact ⟨d, hd, hname.symm, hv⟩

theorem field?_ofSections (env : Environment) (sec : Section) (name : Text) :
    (Entries.ofSections env.section?).field? sec name = env.sets? sec name := by
  rw [Entries.field?, Entries.get?_ofSections, ← get?_texts, section?]
  cases htexts : env.texts sec with
  | nil => rfl
  | cons e rest => rfl

section Flat

variable (h : env.Flat)
include h

theorem Flat.fields_eq (sec : Section) : fields {} (env.values {}) sec = env.texts sec := by
  have htext : ∀ e ∈ env.values {}, ∃ t, e.2 = .str t := by
    intro e he
    obtain ⟨d, -, rfl⟩ := mem_values he
    exact ⟨d.2, rfl⟩
  have hdeclared : ∀ e ∈ env.values {}, ∀ name, e.1 = lead sec ++ name → name ∈ sec.fieldNames := by
    intro e he name hname
    obtain ⟨d, hd, rfl⟩ := mem_values he
    exact h.declared d hd sec name hname
  have hlead : ({} : Naming).sectionName sec ++ ({} : Naming).divider = lead sec := by
    rw [sectionName_eq]
    rfl
  have hdivider : ({} : Naming).divider.isEmpty = false := by decide
  have hkept := Entries.insertAll_nil_of_nodup (env.nodup_names_texts sec)
  unfold fields
  rw [hdivider, if_neg Bool.false_ne_true, hlead]
  exact (foldl_insertAt_eq (env.values {}) [] htext hdeclared).trans hkept

theorem Flat.fits (sec : Section) : sec.Fits (env.texts sec) where
  nodup := env.nodup_names_texts sec
  known := by
    intro name hname
    obtain ⟨⟨n, v⟩, hmem, rfl⟩ := List.mem_map.mp hname
    obtain ⟨d, hd, heq, -⟩ := mem_texts hmem
    exact h.declared d hd sec n heq
  plain := by
    intro name v hget inner
    obtain ⟨d, -, -, rfl⟩ := mem_texts (Entries.mem_of_get?_eq_some hget)
    nofun

theorem Flat.value?_eq (sec : Section) : value? {} (env.values {}) sec = .ok (env.section? sec) := by
  have hnone : (env.values {}).get? (({} : Naming).sectionName sec) = none := by
    rw [sectionName_eq, Entries.get?_eq_none_iff]
    intro hname
    obtain ⟨e, he, heq⟩ := List.mem_map.mp hname
    obtain ⟨d, hd, rfl⟩ := mem_values he
    exact h.no_section d hd sec heq
  have htidied : tidied {} sec (env.texts sec) = .object (env.texts sec) :=
    congrArg Value.object (withNames_of_fits (h.fits sec))
  unfold value?
  dsimp only
  rw [hnone, h.fields_eq sec, htidied, section?]

theorem Flat.sectioned : (Entries.ofSections env.section?).Sectioned := by
  refine Entries.sectioned_ofSections fun sec v hv => ?_
  rw [section?] at hv
  split at hv
  · cases hv
  · exact ⟨env.texts sec, (Option.some.inj hv).symm, h.fits sec⟩

end Flat

end Environment

end JuliaLookup
