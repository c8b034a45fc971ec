import JuliaLookup.Proofs.Check.Passing
import JuliaLookup.Proofs.Value.Merging
import JuliaLookup.Settings.Basic

/-!
# Entries by section

Entries that hold sections, and sections that hold known fields, are told by what they hold for each field of
each section: merging them is a choice field by field, and a check of them depends on nothing else.
-/

namespace JuliaLookup

namespace Section

/-- Fields as they may stand in a section: known names, none of them twice, and no value an object. -/
structure Fits (sec : Section) (fields : Entries) : Prop where
  nodup : fields.names.Nodup
  known : fields.names ⊆ sec.fieldNames
  plain : ∀ name v, fields.get? name = some v → ∀ inner, v ≠ .object inner

/-- The fields of a section with the values that stand for their defaults. -/
def defaults : Section → Entries
  | julia => [("executable", .null), ("project", .null), ("timeout_seconds", .number (.float 60))]
  | cache => [("ttl_seconds", .int 300)]
  | logging => [("level", "INFO"), ("format", "json")]

/-- Every field of a section: what is found for it, or else its default. -/
def fill (sec : Section) (found? : Text → Option Value) : Entries :=
  sec.defaults.map fun (name, default) => (name, (found? name).getD default)

variable {sec : Section} {fields low high : Entries} {found? : Text → Option Value}

theorem mem_every (sec : Section) : sec ∈ every := by cases sec <;> decide

theorem nodup_every : every.Nodup := by decide

theorem name_injective {sec other : Section} (h : sec.name = other.name) : sec = other := by
  cases sec <;> cases other <;> first | rfl | exact absurd h (by decide)

theorem isSurrogate_fieldNames (sec : Section) :
    ∀ n ∈ sec.fieldNames, n.any CodePoint.isSurrogate = false := by
  cases sec <;> decide

theorem names_fill (sec : Section) (found? : Text → Option Value) :
    (sec.fill found?).names = sec.fieldNames := by
  cases sec <;> rfl

theorem Fits.nil (sec : Section) : sec.Fits [] where
  nodup := List.nodup_nil
  known := List.nil_subset _
  plain := nofun

/-- What is above counts, and what is below where nothing is above. -/
theorem Fits.get?_over (hhigh : sec.Fits high) (name : Text) :
    (low.over high).get? name = (high.get? name <|> low.get? name) := by
  rw [Entries.get?_over hhigh.nodup]
  cases hname : high.get? name with
  | none => rfl
  | some v =>
    cases low.get? name with
    | none => rfl
    | some w => exact congrArg some (Value.over_of_ne_object (hhigh.plain name v hname))

theorem Fits.over (hlow : sec.Fits low) (hhigh : sec.Fits high) : sec.Fits (low.over high) where
  nodup := Entries.nodup_names_over hlow.nodup high
  known := by
    intro name hname
    by_contra hunknown
    have hnone : (low.over high).get? name = none := by
      rw [hhigh.get?_over, Entries.get?_eq_none_iff.mpr fun h => hunknown (hhigh.known h),
        Entries.get?_eq_none_iff.mpr fun h => hunknown (hlow.known h)]
      rfl
    exact Entries.get?_eq_none_iff.mp hnone hname
  plain := by
    intro name v hget
    rw [hhigh.get?_over] at hget
    cases hname : high.get? name with
    | some w =>
      rw [hname] at hget
      obtain rfl := Option.some.inj hget
      exact hhigh.plain name w hname
    | none =>
      rw [hname] at hget
      exact hlow.plain name v hget

end Section

/-! ### Checks -/

/-- It makes no difference to a field whether its default is said. -/
theorem Check.field_of_getD {α : Type} {name : Text} {default : α} {value : Value}
    {check : Value → Except Fault α} {given filled : Entries} (hdefault : check value = .ok default)
    (hget : filled.get? name = some ((given.get? name).getD value)) :
    field name (some default) check filled = field name (some default) check given := by
  unfold field
  rw [hget]
  cases given.get? name with
  | some v => rfl
  | none =>
    show (check value).mapError _ = _
    rw [hdefault]
    rfl

section Checks

variable {sec : Section} {fields : Entries}

/-- A check of a section's record comes down to its fields. -/
theorem Section.Fits.record {α : Type} (h : sec.Fits fields) (checked : Checked α) :
    Check.record sec.fieldNames checked fields = checked :=
  Check.record_of_known sec.isSurrogate_fieldNames h.known

theorem Section.record_fill {α : Type} (sec : Section) (found? : Text → Option Value)
    (checked : Checked α) : Check.record sec.fieldNames checked (sec.fill found?) = checked := by
  have hknown : (sec.fill found?).names ⊆ sec.fieldNames := by
    rw [sec.names_fill found?]
    exact List.Subset.refl _
  exact Check.record_of_known sec.isSurrogate_fieldNames hknown

theorem JuliaSettings.check_fill (h : Section.julia.Fits fields) :
    check (Section.julia.fill fields.get?) = check fields := by
  have hexecutable : Check.field "executable" (some none) Check.optionalText
      (Section.julia.fill fields.get?) =
        Check.field "executable" (some none) Check.optionalText fields := Check.field_of_getD rfl rfl
  have hproject : Check.field "project" (some none) Check.optionalText
      (Section.julia.fill fields.get?) =
        Check.field "project" (some none) Check.optionalText fields := Check.field_of_getD rfl rfl
  have htimeout : Check.field "timeout_seconds" (some ({} : JuliaSettings).timeoutSeconds)
      (Check.such Check.real (fun x => Number.int 0 < Number.float x) .notPositive)
      (Section.julia.fill fields.get?) =
        Check.field "timeout_seconds" (some ({} : JuliaSettings).timeoutSeconds)
          (Check.such Check.real (fun x => Number.int 0 < Number.float x) .notPositive) fields :=
    Check.field_of_getD rfl rfl
  unfold check
  dsimp only at htimeout ⊢
  rw [hexecutable, hproject, htimeout]
  exact (Section.record_fill .julia _ _).trans (h.record _).symm

theorem CacheSettings.check_fill (h : Section.cache.Fits fields) :
    check (Section.cache.fill fields.get?) = check fields := by
  have hlifetime : Check.field "ttl_seconds" (some ({} : CacheSettings).lifetimeSeconds)
      (Check.such Check.integer (0 ≤ ·) .negative) (Section.cache.fill fields.get?) =
        Check.field "ttl_seconds" (some ({} : CacheSettings).lifetimeSeconds)
          (Check.such Check.integer (0 ≤ ·) .negative) fields := Check.field_of_getD rfl rfl
  unfold check
  dsimp only at hlifetime ⊢
  rw [hlifetime]
  exact (Section.record_fill .cache _ _).trans (h.record _).symm

theorem LogSettings.check_fill (h : Section.logging.Fits fields) :
    check (Section.logging.fill fields.get?) = check fields := by
  have hlevel (fault : Fault) : Check.field "level" (some ({} : LogSettings).level)
      (Check.choice Level.ofSetting? fault) (Section.logging.fill fields.get?) =
        Check.field "level" (some ({} : LogSettings).level) (Check.choice Level.ofSetting? fault)
          fields := Check.field_of_getD rfl rfl
  have hformat (fault : Fault) : Check.field "format" (some ({} : LogSettings).format)
      (Check.choice LogFormat.named? fault) (Section.logging.fill fields.get?) =
        Check.field "format" (some ({} : LogSettings).format) (Check.choice LogFormat.named? fault)
          fields := Check.field_of_getD rfl rfl
  unfold check
  dsimp only at hlevel hformat ⊢
  rw [hlevel, hformat]
  exact (Section.record_fill .logging _ _).trans (h.record _).symm

end Checks

/-! ### Sections -/

namespace Entries

variable {e low high : Entries} {sec : Section} {value? : Section → Option Value} {name : Text} {v : Value}

/-- Entries that hold nothing but sections, none of them twice. -/
structure Sectioned (e : Entries) : Prop where
  nodup : e.names.Nodup
  sections : ∀ name v, e.get? name = some v →
    ∃ (sec : Section) (fields : Entries), name = sec.name ∧ v = .object fields ∧ sec.Fits fields

/-- What entries hold for a field. -/
def field? (e : Entries) (sec : Section) (name : Text) : Option Value :=
  match e.get? sec.name with
  | some (.object fields) => Entries.get? fields name
  | _ => none

/-- A section holds its fields, and one that is not there holds none. -/
theorem Sectioned.cases (h : e.Sectioned) (sec : Section) :
    (e.get? sec.name = none ∧ e.field? sec = fun _ => none) ∨
      ∃ fields : Entries, e.get? sec.name = some (.object fields) ∧ sec.Fits fields ∧
        e.field? sec = fields.get? := by
  cases hget : e.get? sec.name with
  | none =>
    refine .inl ⟨rfl, ?_⟩
    funext name
    rw [field?, hget]
  | some v =>
    obtain ⟨sec', fields, hname, rfl, hfits⟩ := h.sections _ _ hget
    obtain rfl := Section.name_injective hname
    refine .inr ⟨fields, rfl, hfits, ?_⟩
    funext name
    rw [field?, hget]

/-- Laying sections over one another is a choice field by field. -/
theorem Sectioned.field?_over (hlow : low.Sectioned) (hhigh : high.Sectioned) (sec : Section)
    (name : Text) : (low.over high).field? sec name = (high.field? sec name <|> low.field? sec name) := by
  have hget := get?_over hhigh.nodup low sec.name
  rcases hhigh.cases sec with ⟨hh, hhf⟩ | ⟨above, hh, hfits, hhf⟩
  · rw [hh] at hget
    rw [hhf, field?, hget, field?]
    rfl
  · rcases hlow.cases sec with ⟨hl, hlf⟩ | ⟨below, hl, -, hlf⟩
    · rw [hh, hl] at hget
      rw [hhf, hlf, field?, hget]
      show above.get? name = (above.get? name <|> none)
      cases above.get? name <;> rfl
    · rw [hh, hl] at hget
      simp only [Value.over] at hget
      rw [hhf, hlf, field?, hget]
      exact hfits.get?_over name

theorem Sectioned.over (hlow : low.Sectioned) (hhigh : high.Sectioned) : (low.over high).Sectioned where
  nodup := nodup_names_over hlow.nodup high
  sections := by
    intro name v hget
    rw [get?_over hhigh.nodup] at hget
    cases hh : high.get? name with
    | none =>
      rw [hh] at hget
      exact hlow.sections name v hget
    | some above =>
      obtain ⟨sec, fields, rfl, rfl, hfits⟩ := hhigh.sections name above hh
      rcases hlow.cases sec with ⟨hl, -⟩ | ⟨below, hl, hbelow, -⟩
      · rw [hh, hl] at hget
        obtain rfl := Option.some.inj hget
        exact ⟨sec, fields, rfl, rfl, hfits⟩
      · rw [hh, hl] at hget
        obtain rfl := Option.some.inj hget
        exact ⟨sec, _, rfl, by simp only [Value.over], hbelow.over hfits⟩

/-! ### Entries built from sections -/

/-- The entries that hold some sections, in their order. -/
def ofSections (value? : Section → Option Value) : Entries :=
  Section.every.filterMap fun sec => (value? sec).map (sec.name, ·)

theorem mem_ofSections_iff : (name, v) ∈ ofSections value? ↔
    ∃ sec : Section, name = sec.name ∧ value? sec = some v := by
  rw [ofSections, List.mem_filterMap]
  constructor
  · rintro ⟨sec, -, hentry⟩
    obtain ⟨w, hw, heq⟩ := Option.map_eq_some_iff.mp hentry
    obtain ⟨rfl, rfl⟩ := Prod.mk.inj heq
    exact ⟨sec, rfl, hw⟩
  · rintro ⟨sec, rfl, hv⟩
    exact ⟨sec, sec.mem_every, by rw [hv]; rfl⟩

theorem nodup_names_ofSections (value? : Section → Option Value) : (ofSections value?).names.Nodup := by
  rw [names, ofSections, List.map_filterMap]
  refine Section.nodup_every.filterMap fun sec sec' name h h' => ?_
  simp only [Option.map_map, Option.mem_def, Option.map_eq_some_iff] at h h'
  obtain ⟨v, -, hname⟩ := h
  obtain ⟨v', -, hname'⟩ := h'
  exact Section.name_injective (hname.trans hname'.symm)

theorem get?_ofSections (value? : Section → Option Value) (sec : Section) :
    (ofSections value?).get? sec.name = value? sec := by
  cases hvalue : value? sec with
  | some v =>
    have hmem := mem_ofSections_iff.mpr ⟨sec, rfl, hvalue⟩
    exact get?_eq_some_of_mem (nodup_names_ofSections value?) hmem
  | none =>
    rw [get?_eq_none_iff]
    intro hname
    obtain ⟨⟨name, v⟩, hmem, heq⟩ := List.mem_map.mp hname
    obtain ⟨sec', hname', hv⟩ := mem_ofSections_iff.mp hmem
    obtain rfl := Section.name_injective (heq.symm.trans hname')
    rw [hvalue] at hv
    cases hv

theorem names_ofSections_subset (value? : Section → Option Value) :
    (ofSections value?).names ⊆ Section.every.map Section.name := by
  intro name hname
  obtain ⟨⟨name', v⟩, hmem, rfl⟩ := List.mem_map.mp hname
  obtain ⟨sec, hsec, -⟩ := mem_ofSections_iff.mp hmem
  exact List.mem_map.mpr ⟨sec, sec.mem_every, hsec.symm⟩

theorem sectioned_ofSections
    (h : ∀ sec v, value? sec = some v → ∃ fields, v = .object fields ∧ sec.Fits fields) :
    (ofSections value?).Sectioned where
  nodup := nodup_names_ofSections value?
  sections := by
    intro name v hget
    obtain ⟨sec, hname, hv⟩ := mem_ofSections_iff.mp (mem_of_get?_eq_some hget)
    obtain ⟨fields, hfields, hfits⟩ := h sec v hv
    exact ⟨sec, fields, hname, hfields, hfits⟩

theorem Sectioned.names_subset (h : e.Sectioned) : e.names ⊆ Section.every.map Section.name := by
  intro name hname
  cases hget : e.get? name with
  | none => exact absurd hname (get?_eq_none_iff.mp hget)
  | some v =>
    obtain ⟨sec, -, rfl, -⟩ := h.sections name v hget
    exact List.mem_map_of_mem sec.mem_every

end Entries

/-! ### All settings -/

variable {e : Entries} {sec : Section}

/-- Every field of every section: what is found for it, or else its default. -/
def Settings.filled (found? : Section → Text → Option Value) : Entries :=
  .ofSections fun sec => some (.object (sec.fill (found? sec)))

theorem Section.check_filled {α : Type} {checkFields : Entries → Checked α} {a : α}
    (hempty : checkFields [] = .ok a)
    (hfill : ∀ fields, sec.Fits fields → checkFields (sec.fill fields.get?) = checkFields fields)
    (h : e.Sectioned) :
    sec.check checkFields (Settings.filled e.field?) = sec.check checkFields e := by
  unfold Section.check
  rw [Settings.filled, Entries.get?_ofSections]
  rcases h.cases sec with ⟨hget, hfield⟩ | ⟨fields, hget, hfits, hfield⟩
  · have hdefaults : checkFields (sec.fill fun _ => none) = .ok a := (hfill [] (.nil sec)).trans hempty
    rw [hget, hfield]
    dsimp only
    rw [hdefaults, hempty]
    rfl
  · rw [hget, hfield]
    dsimp only
    rw [hfill fields hfits]

/-- Settings depend on what is held for each field of each section, and nothing else. -/
theorem Settings.check_filled (h : e.Sectioned) : check (filled e.field?) = check e := by
  have hclean : ∀ n ∈ Section.every.map Section.name, n.any CodePoint.isSurrogate = false := by decide
  have hfilled : (filled e.field?).names ⊆ Section.every.map Section.name :=
    Entries.names_ofSections_subset _
  have hjulia : Section.julia.check JuliaSettings.check (filled e.field?) =
      Section.julia.check JuliaSettings.check e :=
    Section.check_filled rfl (fun _ => JuliaSettings.check_fill) h
  have hcache : Section.cache.check CacheSettings.check (filled e.field?) =
      Section.cache.check CacheSettings.check e :=
    Section.check_filled rfl (fun _ => CacheSettings.check_fill) h
  have hlogging : Section.logging.check LogSettings.check (filled e.field?) =
      Section.logging.check LogSettings.check e :=
    Section.check_filled rfl (fun _ => LogSettings.check_fill) h
  unfold check
  dsimp only
  rw [Check.record_of_known hclean hfilled, Check.record_of_known hclean h.names_subset, hjulia,
    hcache, hlogging]

end JuliaLookup
