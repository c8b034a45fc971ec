import JuliaLookup.Proofs.Launcher.Endings

/-!
# The course of a run

A run tries a process for its script. Where the process is heard to complain, a second one describes the
environment. So the endings of two attempts settle what a run comes to and which processes it tries: it
takes one of the courses of `Course`, and results about runs go by cases on it. Main statement:
`run_comes_to`, with one outcome for every ending.
-/

namespace JuliaLookup.Launcher

variable {l : Launcher} {script : Text} {package : Option Text} {f : Failure} {stdout stderr : Text}

section Courses

variable (l script package) (first second : Attempt)

/-- The courses of a run that meets with two attempts: what each comes to, and which processes it tries. -/
inductive Course : Outcome Text → List Spawn → Prop where
  /-- The process prints a text and nothing else. -/
  | result {stdout stderr : Text} (printed : l.ending first = .printed stdout stderr)
    (quiet : stderr.strip = []) (told : stdout.strip ≠ []) :
    Course (.done stdout.strip) [l.tell script first]
  /-- The process prints nothing at all. -/
  | silence {stdout stderr : Text} (printed : l.ending first = .printed stdout stderr)
    (quiet : stderr.strip = []) (blank : stdout.strip = []) :
    Course (.failed noResult) [l.tell script first]
  /-- The process is heard to complain, and a second one describes the environment. -/
  | complaint {stdout stderr : Text} (printed : l.ending first = .printed stdout stderr)
    (heard : stderr.strip ≠ []) :
    Course (l.complain package stderr (describe (l.meaning (l.ending second))))
      [l.tell script first, l.tell diagnosticScript second]
  /-- Nothing that the process prints is read, and what that means is passed on. -/
  | failed {f : Failure} (means : l.meaning (l.ending first) = .failed f) :
    Course (.failed f) [l.tell script first]
  | cancelled (means : l.meaning (l.ending first) = .cancelled) :
    Course .cancelled [l.tell script first]
  | crashed {why : Crash} (means : l.meaning (l.ending first) = .crashed why) :
    Course (.crashed why) [l.tell script first]

end Courses

/-- A run takes one of the courses. -/
theorem course_run (l : Launcher) (script : Text) (package : Option Text) (attempts : List Attempt) :
    Course l script package (attempts.headD default) (attempts.tail.headD default)
      ((l.run script package).perform attempts).outcome
      ((l.run script package).perform attempts).spawns := by
  rw [run, perform_execute]
  dsimp only
  cases hmeaning : l.meaning (l.ending (attempts.headD default)) with
  | failed f => exact .failed hmeaning
  | cancelled => exact .cancelled hmeaning
  | crashed why => exact .crashed hmeaning
  | done printed =>
    obtain ⟨stdout, stderr⟩ := printed
    have hprinted := eq_printed_of_meaning hmeaning
    by_cases herr : stderr.strip = []
    · rw [judge, Text.isBlank_iff_strip_eq_nil.mpr herr]
      by_cases hout : stdout.strip = []
      · rw [Text.isBlank_iff_strip_eq_nil.mpr hout]
        exact .silence hprinted herr hout
      · rw [Text.isBlank_eq_false_iff.mpr hout]
        exact .result hprinted herr hout
    · rw [judge, Text.isBlank_eq_false_iff.mpr herr]
      simp only [Bool.not_false, if_true, Work.perform, perform_execute]
      exact .complaint hprinted herr

namespace Course

variable {first second : Attempt} {outcome : Outcome Text} {spawns : List Spawn} {text : Text}

/-- What a run comes to whose process printed something. -/
theorem of_printed (h : Course l script package first second outcome spawns)
    (hprinted : l.ending first = .printed stdout stderr) :
    stderr.strip = [] ∧ stdout.strip ≠ [] ∧ outcome = .done stdout.strip ∧
        spawns = [l.tell script first] ∨
      stderr.strip = [] ∧ stdout.strip = [] ∧ outcome = .failed noResult ∧
        spawns = [l.tell script first] ∨
      stderr.strip ≠ [] ∧
        outcome = l.complain package stderr (describe (l.meaning (l.ending second))) ∧
        spawns = [l.tell script first, l.tell diagnosticScript second] := by
  have hmeaning : l.meaning (l.ending first) = .done (stdout, stderr) := congrArg l.meaning hprinted
  cases h with
  | result printed quiet told =>
    cases hprinted.symm.trans printed
    exact .inl ⟨quiet, told, rfl, rfl⟩
  | silence printed quiet blank =>
    cases hprinted.symm.trans printed
    exact .inr (.inl ⟨quiet, blank, rfl, rfl⟩)
  | complaint printed heard =>
    cases hprinted.symm.trans printed
    exact .inr (.inr ⟨heard, rfl, rfl⟩)
  | failed means => cases hmeaning.symm.trans means
  | cancelled means => cases hmeaning.symm.trans means
  | crashed means => cases hmeaning.symm.trans means

theorem done_iff (h : Course l script package first second outcome spawns) :
    outcome = .done text ↔ ∃ stdout stderr, l.ending first = .printed stdout stderr ∧
      stderr.strip = [] ∧ stdout.strip ≠ [] ∧ text = stdout.strip := by
  constructor
  · rintro rfl
    generalize hdone : Outcome.done text = outcome at h
    cases h with
    | result printed quiet told =>
      cases hdone
      exact ⟨_, _, printed, quiet, told, rfl⟩
    | complaint => exact absurd hdone.symm (complain_ne_done _)
    | silence => cases hdone
    | failed => cases hdone
    | cancelled => cases hdone
    | crashed => cases hdone
  · rintro ⟨stdout, stderr, hprinted, herr, hout, rfl⟩
    rcases h.of_printed hprinted with ⟨-, -, hdone, -⟩ | ⟨-, hblank, -⟩ | ⟨hheard, -⟩
    · exact hdone
    · exact absurd hblank hout
    · exact absurd herr hheard

/-- A process is tried for the script, and another one only to explain a complaint. -/
theorem spawns_eq (h : Course l script package first second outcome spawns) :
    ((l.ending first).Complains →
        spawns = [l.tell script first, l.tell diagnosticScript second]) ∧
      (¬ (l.ending first).Complains → spawns = [l.tell script first]) := by
  constructor
  · rintro ⟨stdout, stderr, hprinted, herr⟩
    rcases h.of_printed hprinted with ⟨hquiet, -⟩ | ⟨hquiet, -⟩ | ⟨-, -, hspawns⟩
    · exact absurd hquiet herr
    · exact absurd hquiet herr
    · exact hspawns
  · intro hquiet
    cases h with
    | complaint printed heard => exact absurd ⟨_, _, printed, heard⟩ hquiet
    | result => rfl
    | silence => rfl
    | failed => rfl
    | cancelled => rfl
    | crashed => rfl

end Course

-- an error of the system is classified at the start of a process, but not at the wait for it
example : ((({} : Launcher).run [] none).perform [.started { stderr := [69] },
    .started { wait := .raises "OSError" "broken" }]).outcome = .crashed (.foreign "OSError" "broken") := rfl

end JuliaLookup.Launcher
