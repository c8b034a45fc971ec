import JuliaLookup.Launcher
import JuliaLookup.Proofs.Text.Blanks

/-!
# How processes end

`Ending` says how an attempt to start a process and to wait for it turns out, and `meaning` what that means
for the work that waits. Running a script tries one process and goes on with the meaning of its ending,
whether or not other work may go on meanwhile.
-/

namespace JuliaLookup

/-- The work fails, and the failure is of a kind. -/
def Outcome.FailsWith {α : Type} (o : Outcome α) (code : Code) : Prop :=
  ∃ f, o = .failed f ∧ f.code = code

namespace Work

variable {α : Type} {n : Nat}

theorem perform_ease (w : Work α n) (attempts : List Attempt) :
    w.ease.perform attempts = w.perform attempts := by
  induction w generalizing attempts with
  | ended outcome => rfl
  | report event next ih => simp only [ease, perform, ih]
  | start tell next ih => simp only [ease, perform, ih]
  | wait next ih => simp only [ease, perform, ih]

theorem perform_reporting (events : List Event) (w : Work α n) (attempts : List Attempt) :
    (reporting events w).perform attempts =
      { w.perform attempts with events := events ++ (w.perform attempts).events } := by
  induction events with
  | nil => rfl
  | cons e events ih =>
    simp only [reporting, List.foldr_cons, perform] at ih ⊢
    rw [ih]
    rfl

end Work

namespace Launcher

/-! ### Single processes -/

/-- How an attempt to start a process and to wait for it turns out. -/
inductive Ending where
  | printed (stdout stderr : Text)
  | ranOut
  | cancelled
  | refused (why : SpawnError) (text : Text)
  /-- The process runs, but the limit is a number that no wait can have. -/
  | unwaited
  /-- The process runs, and waiting for it is an exception of another kind. -/
  | raised (kind message : Text)

/-- The process was heard to complain. -/
def Ending.Complains (e : Ending) : Prop :=
  ∃ stdout stderr, e = .printed stdout stderr ∧ stderr.strip ≠ []

def ending (l : Launcher) : Attempt → Ending
  | .refused why text => .refused why text
  | .started c =>
    if l.cannotWait then .unwaited
    else match l.waits c with
      | .completes => .printed (Utf8.decode c.stdout) (Utf8.decode c.stderr)
      | .timesOut => .ranOut
      | .cancelled => .cancelled
      | .raises kind message => .raised kind message

/-- What the ending of a process means for the work that waits for it. -/
def meaning (l : Launcher) : Ending → Outcome (Text × Text)
  | .printed stdout stderr => .done (stdout, stderr)
  | .ranOut => l.timedOut
  | .cancelled => .cancelled
  | .refused why text => (l.refuse text why).1
  | .unwaited => .crashed .hugeLimit
  | .raised kind message => .crashed (.foreign kind message)

/-- What is reported of a process when the attempt is over. -/
def reports (l : Launcher) : Attempt → List Event
  | .refused why text => (l.refuse text why).2
  | .started c => if l.cannotWait then [] else (l.conclude c).2

/-- There is a time limit, and it is a float or an integer that a float can hold. -/
def HasLimit (l : Launcher) : Prop := ∃ t, l.timeout = some t ∧ t.fitsFloat = true

variable {α : Type} {n : Nat} {l : Launcher} {script : Text} {package : Option Text}
  {e : Ending} {f : Failure} {stdout stderr : Text}

theorem conclude_fst (l : Launcher) (c : Child) (hwait : l.cannotWait = false) :
    (l.conclude c).1 = l.meaning (l.ending (.started c)) := by
  rw [conclude, ending, hwait, if_neg Bool.false_ne_true]
  cases l.waits c <;> rfl

/-- Whether or not others may go on meanwhile, a wait goes on with what the ending means. -/
theorem perform_await (l : Launcher) (c : Child) (next : Outcome (Text × Text) → Work α n)
    (attempts : List Attempt) :
    let rest := (next (l.meaning (l.ending (.started c)))).perform attempts
    (l.await c next).perform attempts =
      { rest with events := l.reports (.started c) ++ rest.events } := by
  unfold await
  dsimp only
  cases hwait : l.cannotWait with
  | true =>
    rw [if_pos rfl, Work.perform_ease, ending, reports, hwait, if_pos rfl]
    rfl
  | false =>
    rw [if_neg Bool.false_ne_true, conclude_fst l c hwait, reports, hwait, if_neg Bool.false_ne_true]
    split
    · rw [Work.perform_ease, Work.perform_reporting]
    · rw [Work.perform, Work.perform_reporting]

/-- Running a script tries one process for it, and goes on with what the ending of the process means. -/
theorem perform_execute (l : Launcher) (script : Text) (next : Outcome (Text × Text) → Work α n)
    (attempts : List Attempt) :
    let attempt := attempts.headD default
    let rest := (next (l.meaning (l.ending attempt))).perform attempts.tail
    (l.execute script next).perform attempts =
      { outcome := rest.outcome
        events := l.startEvent script :: (l.reports attempt ++ rest.events)
        spawns := l.tell script attempt :: rest.spawns } := by
  intro attempt rest
  rw [execute, Work.perform, Work.perform]
  cases hattempt : attempts.headD default with
  | refused why text =>
    simp only [rest, attempt, hattempt, Work.perform_ease, Work.perform_reporting]
    rfl
  | started c =>
    simp only [rest, attempt, hattempt, perform_await]

@[simp] theorem argv_tell (l : Launcher) (script : Text) (a : Attempt) :
    (l.tell script a).argv = l.command script := by
  cases a <;> rfl

@[simp] theorem env_tell (l : Launcher) (script : Text) (a : Attempt) :
    (l.tell script a).env = l.env := by
  cases a <;> rfl

/-- Only what was printed counts as a result of a process. -/
theorem eq_printed_of_meaning (h : l.meaning e = .done (stdout, stderr)) : e = .printed stdout stderr := by
  cases e with
  | printed out err =>
    cases h
    rfl
  | ranOut =>
    rw [meaning, timedOut] at h
    split at h
    · cases h
    · split at h <;> cases h
  | cancelled => cases h
  | refused why text => cases why <;> cases h
  | unwaited => cases h
  | raised kind message => cases h

theorem failsWith_of_ranOut (hlimit : l.HasLimit) : l.timedOut.FailsWith .timeout := by
  obtain ⟨t, ht, hfits⟩ := hlimit
  rw [timedOut, ht]
  dsimp only
  rw [if_pos hfits]
  exact ⟨_, rfl, rfl⟩

/-- No description of the environment fails: what failed is part of the description. -/
theorem describe_ne_failed (o : Outcome (Text × Text)) : describe o ≠ .failed f := by
  cases o <;> nofun

/-- A complaint never comes to a text. -/
theorem complain_ne_done (o : Outcome Text) {text : Text} : l.complain package stderr o ≠ .done text := by
  cases o <;> nofun

/-- A complaint that fails tells of the error output, and describes the environment. -/
theorem eq_ofStderr_of_complain {o : Outcome (Text × Text)}
    (h : l.complain package stderr (describe o) = .failed f) :
    ∃ description, f = .ofStderr package l.project (some description) stderr := by
  cases hdescribed : describe o with
  | done description =>
    rw [hdescribed] at h
    exact ⟨description, (Outcome.failed.inj h).symm⟩
  | failed f' => exact absurd hdescribed (describe_ne_failed o)
  | cancelled =>
    rw [hdescribed] at h
    cases h
  | crashed why =>
    rw [hdescribed] at h
    cases h

end Launcher

end JuliaLookup
