import JuliaLookup.Proofs.Complaint.Naming

/-!
# The first complaint that is heard

Error output is taken for the first of four complaints whose words occur in it, and `Hears` says so without
the search. A missing package is reported under one name. Main statement: `ofStderr_first_match`, for the
failure that the output means.
-/

namespace JuliaLookup

namespace Complaint

/-- The output says in one of two ways that a package is missing. -/
def TellsOfPackage (stderr : Text) : Prop :=
  ("could not load package" : Text) <:+: stderr ∨
    ∃ before after name, stderr = before ++ after ∧ SaysNotFound after name

section Names

variable (package : Option Text) (stderr : Text)

/-- The name under which a missing package is reported: that of the package given, if it has one, else the
leftmost one in the output, and `unknown` if there is none. -/
inductive Reported : Text → Prop where
  | given {name : Text} (h : package = some name) (named : name ≠ []) : Reported name
  | heard {name : Text} (h : package = none ∨ package = some []) (first : FirstNamed stderr name) :
    Reported name
  | unheard (h : package = none ∨ package = some []) (none : ∀ name, ¬ FirstNamed stderr name) :
    Reported "unknown"

/-- The first complaint whose words occur in the output. -/
inductive Hears : Complaint → Prop where
  | missingPackage {name : Text} (told : TellsOfPackage stderr) (reported : Reported package stderr name) :
    Hears (.missingPackage name)
  | undefinedReference (present : ¬ TellsOfPackage stderr) (told : ("UndefVarError" : Text) <:+: stderr) :
    Hears .undefinedReference
  | missingSymbol (present : ¬ TellsOfPackage stderr) (known : ¬ ("UndefVarError" : Text) <:+: stderr)
    (told : ("not found" : Text) <:+: stderr) : Hears .missingSymbol
  | other (present : ¬ TellsOfPackage stderr) (known : ¬ ("UndefVarError" : Text) <:+: stderr)
    (found : ¬ ("not found" : Text) <:+: stderr) : Hears .other

end Names

variable {package : Option Text} {stderr name : Text}

/-- There is one name to report, and the search finds it. -/
theorem reported_iff : Reported package stderr name ↔
    name = (package.filter (!·.isEmpty)).getD ((namedPackage? stderr).getD "unknown") := by
  have hheard (h : package = none ∨ package = some []) :
      (package.filter (!·.isEmpty)).getD ((namedPackage? stderr).getD "unknown") =
        (namedPackage? stderr).getD "unknown" := by
    rcases h with rfl | rfl <;> rfl
  constructor
  · intro h
    cases h with
    | given h named =>
      have hkept : (package.filter (!·.isEmpty)) = some name := by simp [h, named]
      rw [hkept]
      rfl
    | heard h first =>
      rw [hheard h, namedPackage?_eq_some_iff.mpr first]
      rfl
    | unheard h none =>
      have hnone : namedPackage? stderr = Option.none :=
        Option.eq_none_iff_forall_ne_some.mpr fun name hname =>
          none name (namedPackage?_eq_some_iff.mp hname)
      rw [hheard h, hnone]
      rfl
  · rintro rfl
    by_cases h : package = none ∨ package = some []
    · rw [hheard h]
      cases hnamed : namedPackage? stderr with
      | none =>
        refine .unheard h fun name hname => ?_
        rw [← namedPackage?_eq_some_iff, hnamed] at hname
        cases hname
      | some name => exact .heard h (namedPackage?_eq_some_iff.mp hnamed)
    · rw [not_or] at h
      obtain ⟨given, rfl⟩ := Option.ne_none_iff_exists'.mp h.1
      have hgiven : given ≠ [] := fun hnil => h.2 (congrArg some hnil)
      have hkept : (some given).filter (!·.isEmpty) = some given := by simp [hgiven]
      rw [hkept]
      exact .given rfl hgiven

theorem tellsOfPackage_iff : TellsOfPackage stderr ↔
    (("could not load package" : Text).occursIn stderr || (namedPackage? stderr).isSome) = true := by
  rw [TellsOfPackage, Bool.or_eq_true, Text.occursIn_iff, isSome_namedPackage?_iff]

theorem hears_of (package : Option Text) (stderr : Text) : Hears package stderr (of package stderr) := by
  rw [of]
  split_ifs with htold hundefined hsymbol
  · exact .missingPackage (tellsOfPackage_iff.mpr htold) (reported_iff.mpr rfl)
  · rw [← tellsOfPackage_iff] at htold
    exact .undefinedReference htold (Text.occursIn_iff.mp hundefined)
  · rw [← tellsOfPackage_iff] at htold
    rw [Text.occursIn_iff] at hundefined
    exact .missingSymbol htold hundefined (Text.occursIn_iff.mp hsymbol)
  · rw [← tellsOfPackage_iff] at htold
    rw [Text.occursIn_iff] at hundefined hsymbol
    exact .other htold hundefined hsymbol

/-- Which package is given makes a difference to the name only. -/
theorem code_of_eq (package package' : Option Text) (stderr : Text) :
    (of package' stderr).code = (of package stderr).code := by
  rw [of, of]
  split_ifs <;> rfl

namespace Hears

variable {c : Complaint}

theorem code_packageNotFound_iff (h : Hears package stderr c) :
    c.code = .packageNotFound ↔ TellsOfPackage stderr := by
  cases h with
  | missingPackage told => exact ⟨fun _ => told, fun _ => rfl⟩
  | undefinedReference present => exact ⟨nofun, fun told => absurd told present⟩
  | missingSymbol present => exact ⟨nofun, fun told => absurd told present⟩
  | other present => exact ⟨nofun, fun told => absurd told present⟩

theorem code_undefinedReference_iff (h : Hears package stderr c) (hpresent : ¬ TellsOfPackage stderr) :
    c.code = .undefinedReference ↔ ("UndefVarError" : Text) <:+: stderr := by
  cases h with
  | missingPackage told => exact absurd told hpresent
  | undefinedReference _ told => exact ⟨fun _ => told, fun _ => rfl⟩
  | missingSymbol _ known => exact ⟨nofun, fun told => absurd told known⟩
  | other _ known => exact ⟨nofun, fun told => absurd told known⟩

theorem code_symbolNotFound_iff (h : Hears package stderr c) (hpresent : ¬ TellsOfPackage stderr)
    (hknown : ¬ ("UndefVarError" : Text) <:+: stderr) :
    c.code = .symbolNotFound ↔ ("not found" : Text) <:+: stderr := by
  cases h with
  | missingPackage told => exact absurd told hpresent
  | undefinedReference _ told => exact absurd told hknown
  | missingSymbol _ _ told => exact ⟨fun _ => told, fun _ => rfl⟩
  | other _ _ found => exact ⟨nofun, fun told => absurd told found⟩

theorem code_interpreterError (h : Hears package stderr c) (hpresent : ¬ TellsOfPackage stderr)
    (hknown : ¬ ("UndefVarError" : Text) <:+: stderr) (hfound : ¬ ("not found" : Text) <:+: stderr) :
    c.code = .interpreterError := by
  cases h with
  | missingPackage told => exact absurd told hpresent
  | undefinedReference _ told => exact absurd told hknown
  | missingSymbol _ _ told => exact absurd told hfound
  | other => rfl

/-- Only a missing package has more to it than its kind, and that is the name reported. -/
theorem cases_code (h : Hears package stderr c) :
    (∃ name, c = .missingPackage name ∧ Reported package stderr name) ∨
      c = .undefinedReference ∨ c = .missingSymbol ∨ c = .other := by
  cases h with
  | missingPackage _ reported => exact .inl ⟨_, rfl, reported⟩
  | undefinedReference => exact .inr (.inl rfl)
  | missingSymbol => exact .inr (.inr (.inl rfl))
  | other => exact .inr (.inr (.inr rfl))

end Hears

end Complaint

namespace Failure

/-- What the first line of the message says of a project. -/
def place : Option Text → Text
  | none => []
  | some project => if project = [] then [] else " (project: " ++ project ++ ")"

/-- What follows the error output in the message. -/
def appendix : Option Text → Text
  | none => []
  | some diagnostics => if diagnostics = [] then [] else paragraph ++ diagnostics

section Messages

variable (package project diagnostics : Option Text) (stderr : Text)

theorem title_missingPackage (name : Text) :
    (Complaint.missingPackage name).title (project.filter (!·.isEmpty)) =
      "Package not found: " ++ name ++ place project := by
  cases project with
  | none => rfl
  | some p =>
    cases p with
    | nil => rfl
    | cons c rest => rfl

/-- The message is the title of the complaint, the error output without the blanks around it, and then the
diagnostics if there are any. -/
theorem message_ofStderr : (ofStderr package project diagnostics stderr).message =
    (Complaint.of package stderr).title (project.filter (!·.isEmpty)) ++ paragraph ++ stderr.strip ++
      appendix diagnostics := by
  cases diagnostics with
  | none => exact (List.append_nil _).symm
  | some d =>
    cases d with
    | nil => exact (List.append_nil _).symm
    | cons c rest => exact List.append_assoc _ _ _

/-- The kind of a failure is that of the first complaint heard in the error output, whatever package, project
and diagnostics are given. The first line of the message tells the kind, and for a missing package its name;
after a blank line the error output follows as it is, without the blanks around it. -/
theorem ofStderr_first_match :
    (∀ package' project' diagnostics', (ofStderr package' project' diagnostics' stderr).code =
      (ofStderr package project diagnostics stderr).code) ∧
    let f := ofStderr package project diagnostics stderr
    (f.code = .packageNotFound ↔ Complaint.TellsOfPackage stderr) ∧
    (¬ Complaint.TellsOfPackage stderr →
      (f.code = .undefinedReference ↔ ("UndefVarError" : Text) <:+: stderr) ∧
      (¬ ("UndefVarError" : Text) <:+: stderr →
        (f.code = .symbolNotFound ↔ ("not found" : Text) <:+: stderr) ∧
        (¬ ("not found" : Text) <:+: stderr → f.code = .interpreterError))) ∧
    ∃ header, f.message = header ++ paragraph ++ stderr.strip ++ appendix diagnostics ∧
      (f.code = .packageNotFound → (∃ name, Complaint.Reported package stderr name) ∧
        ∀ name, Complaint.Reported package stderr name →
          header = "Package not found: " ++ name ++ place project) ∧
      (f.code = .undefinedReference → header = "Undefined variable") ∧
      (f.code = .symbolNotFound → header = "Symbol not found") ∧
      (f.code = .interpreterError → header = "Julia error") := by
  have hmessage := message_ofStderr package project diagnostics stderr
  have hheard := Complaint.hears_of package stderr
  refine ⟨fun package' project' diagnostics' => Complaint.code_of_eq package package' stderr, ?_⟩
  intro f
  have hcode : f.code = (Complaint.of package stderr).code := rfl
  rw [hcode]
  refine ⟨hheard.code_packageNotFound_iff, fun hpresent => ?_, _, hmessage, ?_⟩
  · refine ⟨hheard.code_undefinedReference_iff hpresent, fun hknown => ?_⟩
    exact ⟨hheard.code_symbolNotFound_iff hpresent hknown, hheard.code_interpreterError hpresent hknown⟩
  · rcases hheard.cases_code with ⟨name, hname, hreported⟩ | hkind | hkind | hkind
    · rw [hname]
      refine ⟨fun _ => ⟨⟨name, hreported⟩, fun name' hname' => ?_⟩, nofun, nofun, nofun⟩
      rw [Complaint.reported_iff.mp hname', ← Complaint.reported_iff.mp hreported]
      exact title_missingPackage project name
    · rw [hkind]
      exact ⟨nofun, fun _ => rfl, nofun, nofun⟩
    · rw [hkind]
      exact ⟨nofun, nofun, fun _ => rfl, nofun⟩
    · rw [hkind]
      exact ⟨nofun, nofun, nofun, fun _ => rfl⟩

end Messages

end Failure

end JuliaLookup
