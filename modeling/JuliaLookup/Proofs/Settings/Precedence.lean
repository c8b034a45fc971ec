import JuliaLookup.Proofs.Settings.Variables

/-!
# Precedence of settings

Settings are given directly, by the environment and by a file. Where each of them sets single fields of the
sections, every field is settled by itself: the first of the three that sets it counts, and the default
where none does. Main statement: `settings_by_field`.
-/

namespace JuliaLookup

namespace Entries

variable {entries : Entries}

/-- The section that counts among entries: the first of its name, whatever the case. -/
def found? (entries : Entries) (sec : Section) : Option Value :=
  (entries.find? (·.1.asciiLower == sec.name)).map Prod.snd

/-- What entries set for a field. -/
def sets? (entries : Entries) (sec : Section) (name : Text) : Option Value :=
  match entries.found? sec with
  | some (.object fields) => Entries.get? fields name
  | _ => none

/-- Every entry is a section, whatever the case of its name, with nothing but fields in it. -/
def Flat (entries : Entries) : Prop :=
  ∀ e ∈ entries, ∃ (sec : Section) (fields : Entries),
    e.1.asciiLower = sec.name ∧ e.2 = .object fields ∧ sec.Fits fields

theorem Flat.fits_of_found? (h : entries.Flat) {sec : Section} {v : Value}
    (hfound : entries.found? sec = some v) : ∃ fields, v = .object fields ∧ sec.Fits fields := by
  obtain ⟨e, hfind, rfl⟩ := Option.map_eq_some_iff.mp hfound
  obtain ⟨sec', fields, hname, hfields, hfits⟩ := h e (List.mem_of_find?_eq_some hfind)
  have hname' : e.1.asciiLower = sec.name := by simpa using List.find?_some hfind
  obtain rfl := Section.name_injective (hname.symm.trans hname')
  exact ⟨fields, hfields, hfits⟩

/-- With their names known, flat entries hold the sections that count among them. -/
theorem Flat.withSections_eq (h : entries.Flat) :
    Sources.withSections entries = ofSections entries.found? := by
  have hothers : entries.filter (fun e => e.1.asciiLower ∉ Section.every.map Section.name) = [] := by
    rw [List.filter_eq_nil_iff]
    intro e he
    obtain ⟨sec, fields, hname, -, -⟩ := h e he
    rw [hname]
    simpa using ⟨sec, sec.mem_every, rfl⟩
  unfold Sources.withSections knownFirst
  dsimp only
  rw [hothers, List.append_nil, List.filterMap_map, ofSections]
  congr 1
  funext sec
  simp [found?, Function.comp_def]

theorem Flat.sectioned (h : entries.Flat) : (Sources.withSections entries).Sectioned := by
  rw [h.withSections_eq]
  exact sectioned_ofSections fun sec v => h.fits_of_found?

theorem Flat.field?_withSections (h : entries.Flat) (sec : Section) (name : Text) :
    (Sources.withSections entries).field? sec name = entries.sets? sec name := by
  rw [h.withSections_eq, field?, get?_ofSections]
  rfl

end Entries

namespace Sources

variable {s : Sources}

/-- What the file that counts holds. -/
def content (s : Sources) : Value := (s.workingFile <|> s.userFile).getD .null

/-- What the file sets. -/
def fileContent (s : Sources) : Entries :=
  match Content.entries s.content with
  | .ok entries => entries
  | .error _ => []

/-- The sources set single fields of the sections, each under a name of its own and to a value that is no
object. -/
structure Flat (s : Sources) : Prop where
  given : s.given.Flat
  env : s.env.Flat
  file : ∃ entries, Content.entries s.content = .ok entries ∧ entries.Flat

/-- What the first source sets that sets a field: what is given comes first, then the environment, then the
file. -/
def first? (s : Sources) (sec : Section) (name : Text) : Option Value :=
  s.given.sets? sec name <|> s.env.sets? sec name <|> s.fileContent.sets? sec name

/-! ### What each source gives -/

/-- Sections are no options. -/
theorem Flat.not_option (h : s.given.Flat) {e : Text × Value} (he : e ∈ s.given) :
    e.1 ∉ Naming.optionNames := by
  have hlower : ∀ n ∈ Naming.optionNames, ∀ sec ∈ Section.every, n.asciiLower ≠ sec.name := by decide
  intro hoption
  obtain ⟨sec, fields, hname, -, -⟩ := h e he
  exact hlower e.1 hoption sec sec.mem_every hname

theorem givenEntries_eq (h : s.given.Flat) : s.givenEntries = withSections s.given := by
  have hkept : s.given.filter (fun e => e.1 ∉ Naming.optionNames) = s.given := by
    rw [List.filter_eq_self]
    intro e he
    simpa using Flat.not_option h he
  rw [givenEntries, hkept]

/-- Where no option is given, variables are named as ever. -/
theorem ofOptions?_eq (h : s.given.Flat) : Naming.ofOptions? s.given = some {} := by
  have hnone : ∀ n ∈ Naming.optionNames, s.given.get? n = none := by
    intro n hn
    rw [Entries.get?_eq_none_iff]
    intro hname
    obtain ⟨e, he, rfl⟩ := List.mem_map.mp hname
    exact Flat.not_option h he hn
  unfold Naming.ofOptions? Naming.lead? Naming.hasLead
  dsimp only
  rw [hnone "_env_prefix_target" (by decide), hnone "_env_prefix" (by decide),
    hnone "_env_nested_delimiter" (by decide), hnone "_env_nested_max_split" (by decide),
    hnone "_case_sensitive" (by decide), hnone "_env_ignore_empty" (by decide),
    hnone "_env_parse_none_str" (by decide)]
  rfl

/-- Sections that are there are inserted one after another. -/
theorem foldlM_insert_eq {given? : Section → Except Json.Fault (Option Value)}
    {value? : Section → Option Value} (h : ∀ sec, given? sec = .ok (value? sec)) (secs : List Section)
    (entries : Entries) :
    secs.foldlM (fun (entries : Entries) sec =>
        match given? sec with
        | .ok (some v) => Except.ok (entries.insert sec.name v)
        | .ok none => Except.ok entries
        | .error fault => Except.error (SettingsError.ofFault sec fault)) entries =
      Except.ok (entries.insertAll (secs.filterMap fun sec => (value? sec).map (sec.name, ·))) := by
  induction secs generalizing entries with
  | nil => rfl
  | cons sec rest ih =>
    rw [List.foldlM_cons, h sec]
    cases hvalue : value? sec with
    | none =>
      rw [List.filterMap_cons_none (by rw [hvalue]; rfl)]
      exact ih entries
    | some v =>
      rw [List.filterMap_cons_some (by rw [hvalue]; rfl)]
      exact ih (entries.insert sec.name v)

theorem envEntries_eq (hgiven : s.given.Flat) (henv : s.env.Flat) :
    s.envEntries = .ok (.ofSections s.env.section?) := by
  have hdistinct := Entries.nodup_names_ofSections s.env.section?
  unfold envEntries
  rw [ofOptions?_eq hgiven]
  dsimp only
  exact (foldlM_insert_eq henv.value?_eq Section.every []).trans
    (congrArg Except.ok (Entries.insertAll_nil_of_nodup hdistinct))

/-! ### All of them -/

variable (h : s.Flat)
include h

/-- What all sources give is what the first of them gives that gives anything, field by field. -/
theorem Flat.merged_cases : ∃ entries, s.merged = .ok entries ∧ entries.Sectioned ∧
    entries.field? = s.first? := by
  obtain ⟨file, hfile, hflat⟩ := h.file
  have hcontent : s.fileContent = file := by rw [fileContent, hfile]
  have hfileEntries : s.fileEntries = .ok (withSections file) := by
    rw [fileEntries, show (s.workingFile <|> s.userFile).getD .null = s.content from rfl, hfile]
  have hgiven := h.given.sectioned
  have henv := h.env.sectioned
  refine ⟨(withSections file).over ((Entries.ofSections s.env.section?).over (withSections s.given)),
    ?_, hflat.sectioned.over (henv.over hgiven), ?_⟩
  · rw [merged, hfileEntries, envEntries_eq h.given h.env, givenEntries_eq h.given]
    rfl
  · funext sec name
    rw [hflat.sectioned.field?_over (henv.over hgiven), henv.field?_over hgiven,
      h.given.field?_withSections, Environment.field?_ofSections, hflat.field?_withSections, first?,
      hcontent]
    cases s.given.sets? sec name <;> rfl

theorem Flat.settings_eq :
    s.settings = (Settings.check (Settings.filled s.first?)).mapError .invalid := by
  obtain ⟨entries, hmerged, hsectioned, hfield⟩ := h.merged_cases
  rw [settings, hmerged, ← hfield, Settings.check_filled hsectioned]

end Sources

/-! ### What is accepted -/

theorem Check.such_eq_ok_iff {α : Type} {check : Value → Except Fault α} {holds : α → Bool}
    {fault : Fault} {v : Value} {x : α} :
    such check holds fault v = .ok x ↔ check v = .ok x ∧ holds x = true := by
  unfold such
  cases check v with
  | error f => simp
  | ok y =>
    by_cases hy : holds y = true
    · simp only [if_pos hy, Except.ok.injEq]
      constructor
      · rintro rfl
        exact ⟨rfl, hy⟩
      · exact And.left
    · simp only [if_neg hy, Except.ok.injEq, reduceCtorEq, false_iff]
      rintro ⟨rfl, hholds⟩
      exact hy hholds

/-- What is above a number is a number. -/
theorem Number.isNaN_of_lt {a b : Number} (h : a < b) : b.isNaN = false := by
  have hbelow : partsBelow a.parts b.parts = true := h
  cases hb : b.parts with
  | nan =>
    rw [hb] at hbelow
    cases ha : a.parts with
    | nan => rw [ha] at hbelow; cases hbelow
    | infinite negative => rw [ha] at hbelow; cases negative <;> cases hbelow
    | finite negative mantissa exponent => rw [ha] at hbelow; cases hbelow
  | infinite negative => rw [isNaN, hb]; rfl
  | finite negative mantissa exponent => rw [isNaN, hb]; rfl

theorem JuliaSettings.timeout_pos {given : Entries} {settings : JuliaSettings}
    (h : check given = .ok settings) : Number.int 0 < Number.float settings.timeoutSeconds := by
  have hdefault : Number.int 0 < Number.float ({} : JuliaSettings).timeoutSeconds := by decide
  have hfields := ((Check.record_eq_ok_iff (Section.isSurrogate_fieldNames .julia)).mp h).1
  obtain ⟨⟨⟨executable, project⟩, timeout⟩, hboth, rfl⟩ := map_eq_ok_iff.mp hfields
  obtain ⟨-, htimeout⟩ := Checked.both_eq_ok_iff.mp hboth
  rcases Check.field_eq_ok_iff.mp htimeout with ⟨v, -, hv⟩ | ⟨-, hnone⟩
  · exact of_decide_eq_true (Check.such_eq_ok_iff.mp hv).2
  · obtain rfl := Option.some.inj hnone
    exact hdefault

theorem CacheSettings.lifetime_nonneg {given : Entries} {settings : CacheSettings}
    (h : check given = .ok settings) : 0 ≤ settings.lifetimeSeconds := by
  have hfields := ((Check.record_eq_ok_iff (Section.isSurrogate_fieldNames .cache)).mp h).1
  obtain ⟨lifetime, hlifetime, rfl⟩ := map_eq_ok_iff.mp hfields
  rcases Check.field_eq_ok_iff.mp hlifetime with ⟨v, -, hv⟩ | ⟨-, hnone⟩
  · exact of_decide_eq_true (Check.such_eq_ok_iff.mp hv).2
  · obtain rfl := Option.some.inj hnone
    decide

/-- A section that passes has fields that pass. -/
theorem Section.exists_fields_of_check {α : Type} {sec : Section} {checkFields : Entries → Checked α}
    {given : Entries} {a : α} (h : sec.check checkFields given = .ok a) :
    ∃ fields, checkFields fields = .ok a := by
  unfold check at h
  split at h
  · exact ⟨[], h⟩
  · exact ⟨_, mapError_eq_ok_iff.mp h⟩
  · cases h

theorem Settings.bounds_of_check {given : Entries} {settings : Settings}
    (h : check given = .ok settings) : 0 ≤ settings.cache.lifetimeSeconds ∧
      Number.int 0 < Number.float settings.julia.timeoutSeconds := by
  have hclean : ∀ n ∈ Section.every.map Section.name, n.any CodePoint.isSurrogate = false := by decide
  have hsections := ((Check.record_eq_ok_iff hclean).mp h).1
  obtain ⟨⟨⟨julia, cache⟩, logging⟩, hboth, rfl⟩ := map_eq_ok_iff.mp hsections
  obtain ⟨hfirst, -⟩ := Checked.both_eq_ok_iff.mp hboth
  obtain ⟨hjulia, hcache⟩ := Checked.both_eq_ok_iff.mp hfirst
  obtain ⟨fields, hfields⟩ := Section.exists_fields_of_check hjulia
  obtain ⟨fields', hfields'⟩ := Section.exists_fields_of_check hcache
  exact ⟨CacheSettings.lifetime_nonneg hfields', JuliaSettings.timeout_pos hfields⟩

namespace Sources

/-- Only what is found for declared fields counts. -/
theorem filled_congr {found? found?' : Section → Text → Option Value}
    (h : ∀ sec : Section, ∀ name ∈ sec.fieldNames, found? sec name = found?' sec name) :
    Settings.filled found? = Settings.filled found?' := by
  unfold Settings.filled
  congr 1
  funext sec
  have hfill : sec.fill (found? sec) = sec.fill (found?' sec) := by
    refine List.map_congr_left fun e he => ?_
    have hname : e.1 ∈ sec.fieldNames := by
      have hnames : sec.defaults.names = sec.fieldNames := by cases sec <;> rfl
      exact hnames ▸ List.mem_map_of_mem he
    dsimp only
    rw [h sec e.1 hname]
  rw [hfill]

/-- Precedence goes field by field. Let every source set single fields of the sections. All that is set for
a field is then what the first source sets that sets it, whatever else is set in the same section; and
settings come of checking that, or the default where no source sets the field. So sources that agree on what
the first of them sets have the same settings or the same problems, whatever else the later ones set.
Settings that are accepted, from whatever sources, have a lifetime that is not negative, and a limit that is
a number above zero. -/
theorem settings_by_field {s : Sources} (h : s.Flat) :
    (∃ entries, s.merged = .ok entries ∧ ∀ sec name, entries.field? sec name = s.first? sec name) ∧
      s.settings = (Settings.check (Settings.filled s.first?)).mapError .invalid ∧
      (∀ s' : Sources, s'.Flat →
        (∀ sec : Section, ∀ name ∈ sec.fieldNames, s'.first? sec name = s.first? sec name) →
        s'.settings = s.settings) ∧
      ∀ (s' : Sources) (settings : Settings), s'.settings = .ok settings →
        0 ≤ settings.cache.lifetimeSeconds ∧
        Number.int 0 < Number.float settings.julia.timeoutSeconds ∧
        (Number.float settings.julia.timeoutSeconds).isNaN = false := by
  refine ⟨?_, h.settings_eq, ?_, ?_⟩
  · obtain ⟨entries, hmerged, -, hfield⟩ := h.merged_cases
    exact ⟨entries, hmerged, fun sec name => by rw [hfield]⟩
  · intro s' h' hfirst
    rw [h.settings_eq, h'.settings_eq, filled_congr hfirst]
  · intro s' settings hsettings
    unfold Sources.settings at hsettings
    split at hsettings
    · cases hsettings
    · obtain ⟨hlifetime, htimeout⟩ := Settings.bounds_of_check (mapError_eq_ok_iff.mp hsettings)
      exact ⟨hlifetime, htimeout, Number.isNaN_of_lt htimeout⟩

/-- A lifetime that is given hides one that is no number, and one field from the environment leaves the
others of its section to the file. -/
theorem settings_by_field_of_three :
    let s : Sources :=
      { given := [("cache", .object [("ttl_seconds", .int 5)])]
        env := [("JULIADOC__CACHE__TTL_SECONDS", "soon"), ("juliadoc__Julia__project", "work")]
        workingFile := some (.object
          [("julia", .object [("executable", "julia"), ("project", .int 3)])]) }
    s.Flat ∧ s.settings = .ok
      { julia := { executable := some "julia", project := some "work" }
        cache := { lifetimeSeconds := 5 } } := by
  intro s
  have hgiven : s.given.Flat := by
    intro e he
    obtain rfl := List.mem_singleton.mp he
    refine ⟨.cache, _, rfl, rfl, by decide, by decide, fun name v hget => ?_⟩
    obtain rfl := (Prod.mk.inj (List.mem_singleton.mp (Entries.mem_of_get?_eq_some hget))).2
    nofun
  have henv : s.env.Flat := Environment.flat_of_forall (by decide)
  have hfile : ∃ entries, Content.entries s.content = .ok entries ∧ entries.Flat := by
    refine ⟨_, rfl, fun e he => ?_⟩
    obtain rfl := List.mem_singleton.mp he
    refine ⟨.julia, _, rfl, rfl, by decide, by decide, fun name v hget => ?_⟩
    rcases List.mem_cons.mp (Entries.mem_of_get?_eq_some hget) with heq | hmem
    · obtain rfl := (Prod.mk.inj heq).2
      nofun
    · obtain rfl := (Prod.mk.inj (List.mem_singleton.mp hmem)).2
      nofun
  have hflat : s.Flat := ⟨hgiven, henv, hfile⟩
  obtain ⟨-, hsettings, -⟩ := settings_by_field hflat
  exact ⟨hflat, hsettings.trans rfl⟩

end Sources

end JuliaLookup
