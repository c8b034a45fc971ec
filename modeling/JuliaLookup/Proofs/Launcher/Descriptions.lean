import JuliaLookup.Proofs.Launcher.Course

/-!
# Descriptions of the environment

A second process describes the environment when the first one was heard to complain. It can go wrong in every
way that the first one can, and nothing of that changes what is made of the complaint: a description is put
below it, or a line that says why there is none. Main statement: `run_keeps_complaint`.
-/

namespace JuliaLookup

/-- A text below a failure changes its message only. -/
theorem Failure.ofStderr_some {package project : Option Text} {stderr description : Text}
    (h : description ≠ []) :
    ofStderr package project (some description) stderr =
      let plain := ofStderr package project none stderr
      { plain with message := plain.message ++ paragraph ++ description } := by
  cases description with
  | nil => exact absurd rfl h
  | cons c rest => rfl

namespace Launcher

variable {l : Launcher} {stdout stderr : Text} {a : Attempt} {e : Ending}

/-- The endings that mean a result or a classified failure: the process prints something or nothing, runs out
of the time that it has, or cannot be started for a reason that is known. -/
inductive Classified (l : Launcher) : Ending → Prop where
  | printed (stdout stderr : Text) : Classified l (.printed stdout stderr)
  | ranOut (limited : l.timeout ≠ none) : Classified l .ranOut
  | refused {why : SpawnError} (text : Text) (known : ∀ kind, why ≠ .foreign kind)
    (uncancelled : why ≠ .cancelled) : Classified l (.refused why text)

/-- Only a limit that can be told lets a process print anything, if there is a limit. -/
theorem hasLimit_of_printed (h : l.ending a = .printed stdout stderr) (limited : l.timeout ≠ none) :
    l.HasLimit := by
  obtain ⟨t, ht⟩ := Option.ne_none_iff_exists'.mp limited
  refine ⟨t, ht, ?_⟩
  cases a with
  | refused why text => cases h
  | started c =>
    rw [ending] at h
    split_ifs at h with hwait
    by_cases hout : l.isOutOfTime = true
    · rw [waits, if_pos hout] at h
      cases h
    · simp only [cannotWait, isOutOfTime, ht, Option.any_some] at hwait hout
      cases t with
      | float bits => rfl
      | int n =>
        have hnan : (Number.int n).isNaN = false := rfl
        have hpositive : Number.int 0 < Number.int n := by simpa [hnan] using hout
        simpa [hpositive] using hwait

/-- A classified ending means a result or a failure, once another process of the launcher has printed. -/
theorem Classified.result_or_failure (he : l.Classified e) (h : l.ending a = .printed stdout stderr) :
    (∃ printed, l.meaning e = .done printed) ∨ ∃ f, l.meaning e = .failed f := by
  cases he with
  | printed out err => exact .inl ⟨_, rfl⟩
  | ranOut limited =>
    obtain ⟨f, hf, -⟩ := failsWith_of_ranOut (hasLimit_of_printed h limited)
    exact .inr ⟨f, hf⟩
  | @refused why text known uncancelled =>
    cases why with
    | missing => exact .inr ⟨_, rfl⟩
    | denied => exact .inr ⟨_, rfl⟩
    | notDirectory => exact .inr ⟨_, rfl⟩
    | system => exact .inr ⟨_, rfl⟩
    | badValue => exact .inr ⟨_, rfl⟩
    | cancelled => exact absurd rfl uncancelled
    | foreign kind => exact absurd rfl (known kind)

/-- Every result and every failure is described, under the heading and never by nothing. -/
theorem exists_describe {o : Outcome (Text × Text)} (h : (∃ printed, o = .done printed) ∨ ∃ f, o = .failed f) :
    ∃ body : Text, body ≠ [] ∧ describe o = .done (diagnosticsHeading ++ "\n" ++ body) := by
  rcases h with ⟨⟨out, err⟩, rfl⟩ | ⟨f, rfl⟩
  · refine ⟨_, ?_, rfl⟩
    split_ifs with hempty
    · decide
    · simpa using hempty
  · have hline : ("\n(diagnostics unavailable: " : Text) = "\n" ++ "(diagnostics unavailable: " := by decide
    refine ⟨"(diagnostics unavailable: " ++ f.message ++ ")", ?_, ?_⟩
    · exact List.append_ne_nil_of_right_ne_nil _ (by decide)
    · rw [describe, hline]
      simp only [List.append_assoc]

/-- What the second process does never hides what the first one complained of. Whether it prints, runs out of
time or cannot be started, the run fails with the code and the suggestion of the complaint, is not worth
another try, and has a description below the complaint. Describing the environment does not fail at all. -/
theorem run_keeps_complaint (l : Launcher) (script : Text) (package : Option Text)
    (attempts : List Attempt) :
    let first := l.ending (attempts.headD default)
    let second := l.ending (attempts.tail.headD default)
    (∀ stdout stderr, first = .printed stdout stderr → stderr.strip ≠ [] → l.Classified second →
      let plain := Failure.ofStderr package l.project none stderr
      ∃ (f : Failure) (body : Text), ((l.run script package).perform attempts).outcome = .failed f ∧
        f.code = plain.code ∧ f.suggestion = plain.suggestion ∧ f.recoverable = false ∧ body ≠ [] ∧
        f.message = plain.message ++ Failure.paragraph ++ diagnosticsHeading ++ "\n" ++ body) ∧
      ∀ attempts f, (l.diagnostics.perform attempts).outcome ≠ .failed f := by
  intro first second
  constructor
  · intro stdout stderr hprinted hheard hsecond plain
    obtain ⟨body, hbody, hdescribe⟩ := exists_describe (hsecond.result_or_failure hprinted)
    have hne : diagnosticsHeading ++ ("\n" : Text) ++ body ≠ [] :=
      List.append_ne_nil_of_right_ne_nil _ hbody
    have hcomplaint : ((l.run script package).perform attempts).outcome =
        l.complain package stderr (describe (l.meaning second)) := by
      rcases (course_run l script package attempts).of_printed hprinted with
        ⟨hquiet, -⟩ | ⟨hquiet, -⟩ | ⟨-, hcomplaint, -⟩
      · exact absurd hquiet hheard
      · exact absurd hquiet hheard
      · exact hcomplaint
    rw [hcomplaint, hdescribe, complain, Failure.ofStderr_some hne]
    refine ⟨_, body, rfl, rfl, rfl, rfl, hbody, ?_⟩
    simp only [plain, List.append_assoc]
  · intro attempts f
    rw [diagnostics, perform_execute]
    exact describe_ne_failed _

/-- A package is missing, and the second process runs out of time. -/
theorem run_keeps_complaint_of_ranOut :
    let first : Attempt := .started { stderr := Utf8.encode "ERROR: could not load package Foo" }
    let second : Attempt := .started { wait := .timesOut }
    ∃ (f : Failure) (body : Text),
      ((({} : Launcher).run [] (some "Foo")).perform [first, second]).outcome = .failed f ∧
      f.code = .packageNotFound ∧ f.recoverable = false ∧ body ≠ [] ∧
      f.message = ("Package not found: Foo\n\nERROR: could not load package Foo\n\n" : Text) ++
        diagnosticsHeading ++ "\n" ++ body := by
  intro first second
  have hprinted : ({} : Launcher).ending first = .printed [] "ERROR: could not load package Foo" := rfl
  have hsecond : ({} : Launcher).Classified (({} : Launcher).ending second) := .ranOut nofun
  obtain ⟨f, body, hf, hcode, -, hrecoverable, hbody, hmessage⟩ :=
    (run_keeps_complaint {} [] (some "Foo") [first, second]).1 _ _ hprinted (by decide) hsecond
  have hplain : (Failure.ofStderr (some "Foo") none none "ERROR: could not load package Foo").message ++
      Failure.paragraph = ("Package not found: Foo\n\nERROR: could not load package Foo\n\n" : Text) := by
    decide
  refine ⟨f, body, hf, ?_, hrecoverable, hbody, ?_⟩
  · rw [hcode]
    decide
  · rw [hmessage, hplain]

end Launcher

end JuliaLookup
