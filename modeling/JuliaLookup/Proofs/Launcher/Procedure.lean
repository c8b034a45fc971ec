import JuliaLookup.Proofs.Launcher.Course

/-!
# Launching, one deed after another

`Launcher.tell` has on record what is done to a process as soon as the process is started. A procedure does
the same in the order in which it happens: a process is tried, waited for, and given up in the middle of the
call that needs it, and the call is over when it returns or raises. Main statement: `session_eq`, by which
sessions of calls come to the same, and do the same, as the activities of the calls.
-/

namespace JuliaLookup.Launcher

/-! ### Procedures -/

/-- What is done. Processes are numbered in the order in which they are tried. -/
inductive Deed where
  | tried (process : Nat) (argv : List Text) (env : Entries)
  | signalled (process : Nat) (signal : Signal)
  /-- A call returns or raises. -/
  | over (outcome : Outcome Text)

/-- What has been done so far, the processes tried among it, and the attempts that are still to come. -/
structure Scene where
  attempts : List Attempt
  tries : Nat := 0
  deeds : List Deed := []

namespace Scene

def act (s : Scene) (deeds : List Deed) : Scene := { s with deeds := s.deeds ++ deeds }

/-- The next process is tried. -/
def spawn (s : Scene) (argv : List Text) (env : Entries) : Scene :=
  { attempts := s.attempts.tail
    tries := s.tries + 1
    deeds := s.deeds ++ [.tried s.tries argv env] }

@[simp] theorem act_nil (s : Scene) : s.act [] = s := by
  rw [act, List.append_nil]

@[simp] theorem act_act (s : Scene) (ds ds' : List Deed) : (s.act ds).act ds' = s.act (ds ++ ds') := by
  rw [act, act, act, List.append_assoc]

end Scene

/-- A computation that does something and then returns or raises. -/
def Procedure (α : Type) : Type := Scene → Outcome α × Scene

namespace Procedure

variable {α β : Type}

/-- Returns or raises at once. -/
def stop (o : Outcome α) : Procedure α := fun s => (o, s)

def act (d : Deed) : Procedure Unit := fun s => (.done (), s.act [d])

/-- Goes on with a result. What is raised ends both. -/
def bind (x : Procedure α) (f : α → Procedure β) : Procedure β := fun s =>
  match x s with
  | (.done a, s) => f a s
  | (.failed e, s) => (.failed e, s)
  | (.cancelled, s) => (.cancelled, s)
  | (.crashed why, s) => (.crashed why, s)

instance : Monad Procedure where
  pure a := stop (.done a)
  bind := bind

/-- Turns the end of a procedure, a result or what is raised, into another end. -/
def handle (x : Procedure α) (f : Outcome α → Outcome β) : Procedure β := fun s =>
  let (o, s) := x s
  (f o, s)

/-- Tries a process for some arguments. -/
def spawn (argv : List Text) (env : Entries) : Procedure (Nat × Attempt) := fun s =>
  (.done (s.tries, s.attempts.headD default), s.spawn argv env)

end Procedure

/-- The name of the error that a process is gone. -/
def goneError : Text := "ProcessLookupError"

/-- Passes over the error that a process is gone. -/
def passOverGone : Outcome Unit → Outcome Unit
  | .crashed (.foreign kind message) =>
    if kind = goneError then .done () else .crashed (.foreign kind message)
  | o => o

/-- Kills a process, which is an error if the process is gone. -/
def kill (process : Nat) (c : Child) : Procedure Unit := do
  Procedure.act (.signalled process .kill)
  if c.gone then Procedure.stop (.crashed (.foreign goneError []))

/-- Gives a process up. -/
def giveUp (process : Nat) (c : Child) : Procedure Unit :=
  if c.ended then pure ()
  else do
    (kill process c).handle passOverGone
    Procedure.act (.signalled process .wait)

/-- Waits for a process. -/
def attend (l : Launcher) (process : Nat) (c : Child) : Procedure (Text × Text) :=
  if l.cannotWait then Procedure.stop (.crashed .hugeLimit)
  else match l.waits c with
  | .completes => pure (Utf8.decode c.stdout, Utf8.decode c.stderr)
  | .timesOut => do
    giveUp process c
    Procedure.stop l.timedOut
  | .cancelled => do
    giveUp process c
    Procedure.stop .cancelled
  | .raises kind message => Procedure.stop (.crashed (.foreign kind message))

/-- Runs a script in a process of its own. -/
def executing (l : Launcher) (script : Text) : Procedure (Text × Text) := do
  let (process, attempt) ← Procedure.spawn (l.command script) l.env
  match attempt with
  | .started c => l.attend process c
  | .refused why text => Procedure.stop (l.refuse text why).1

/-- Describes the environment. -/
def diagnosing (l : Launcher) : Procedure Text := (l.executing diagnosticScript).handle describe

/-- Runs a script and judges what is printed. -/
def running (l : Launcher) (script : Text) (package : Option Text) : Procedure Text := do
  let (stdout, stderr) ← l.executing script
  if !stderr.isBlank then
    let description ← l.diagnosing
    Procedure.stop (.failed (.ofStderr package l.project (some description) stderr))
  else if stdout.isBlank then Procedure.stop (.failed noResult)
  else pure stdout.strip

/-! ### Sessions -/

/-- What a launcher can be asked for. -/
inductive Call where
  | run (script : Text) (package : Option Text)
  | diagnostics

def procedure (l : Launcher) : Call → Procedure Text
  | .run script package => l.running script package
  | .diagnostics => l.diagnosing

/-- The activity of a call that meets with some attempts. -/
def activity (l : Launcher) (attempts : List Attempt) : Call → Activity Text
  | .run script package => (l.run script package).perform attempts
  | .diagnostics => l.diagnostics.perform attempts

/-- Does calls one after another. -/
def session (l : Launcher) : List Call → Scene → Scene
  | [], s => s
  | call :: rest, s =>
    let (outcome, s) := l.procedure call s
    l.session rest (s.act [.over outcome])

/-- The activities of calls, one after another. -/
def history (l : Launcher) : List Call → List Attempt → List (Activity Text)
  | [], _ => []
  | call :: rest, attempts =>
    let a := l.activity attempts call
    a :: l.history rest (attempts.drop a.spawns.length)

/-- The scene after a process that is on record. -/
def Scene.spawned (s : Scene) (p : Spawn) : Scene :=
  (s.spawn p.argv p.env).act (p.signals.map (.signalled s.tries))

/-- The scene after an activity: its processes in order, and then its end. -/
def Scene.performed (s : Scene) (a : Activity Text) : Scene :=
  (a.spawns.foldl Scene.spawned s).act [.over a.outcome]

/-! ### Step by step and at once -/

theorem bind_apply {α β : Type} (x : Procedure α) (f : α → Procedure β) (s : Scene) :
    (x >>= f) s = match x s with
      | (.done a, s') => f a s'
      | (.failed e, s') => (.failed e, s')
      | (.cancelled, s') => (.cancelled, s')
      | (.crashed why, s') => (.crashed why, s') := rfl

/-- A process that is gone raises an error, which is passed over. -/
theorem kill_handle_apply (process : Nat) (c : Child) (s : Scene) :
    (kill process c).handle passOverGone s = (.done (), s.act [.signalled process .kill]) := by
  have hkill : kill process c s =
      (if c.gone then .crashed (.foreign goneError []) else .done (),
        s.act [.signalled process .kill]) := by
    unfold kill
    rw [bind_apply]
    cases c.gone <;> rfl
  rw [Procedure.handle, hkill]
  cases c.gone <;> rfl

/-- Giving a process up does to it what is on record, in this order. -/
theorem giveUp_apply (process : Nat) (c : Child) (s : Scene) :
    giveUp process c s = (.done (), s.act (c.terminate.map (.signalled process))) := by
  unfold giveUp Child.terminate
  cases c.ended with
  | true =>
    rw [if_pos rfl, if_pos rfl, List.map_nil, Scene.act_nil]
    rfl
  | false =>
    rw [if_neg Bool.false_ne_true, if_neg Bool.false_ne_true, bind_apply, kill_handle_apply]
    exact congrArg (Prod.mk _) (Scene.act_act s _ _)

/-- What is on record as done to the process that an attempt starts. -/
def due (l : Launcher) : Attempt → List Signal
  | .started c => if l.cannotWait then [] else c.signals (l.waits c)
  | .refused .. => []

@[simp] theorem signals_tell (l : Launcher) (script : Text) (a : Attempt) :
    (l.tell script a).signals = l.due a := by
  cases a <;> rfl

/-- Waiting for a process comes to what its ending means, after all that is done to the process. -/
theorem attend_apply (l : Launcher) (process : Nat) (c : Child) (s : Scene) :
    l.attend process c s = (l.meaning (l.ending (.started c)),
      s.act ((l.due (.started c)).map (.signalled process))) := by
  cases hwait : l.cannotWait with
  | true =>
    simp only [attend, ending, due, hwait, if_true, List.map_nil, Scene.act_nil]
    rfl
  | false =>
    simp only [attend, ending, due, hwait, Bool.false_eq_true, if_false]
    cases l.waits c with
    | completes =>
      rw [Child.signals, List.map_nil, Scene.act_nil]
      rfl
    | timesOut =>
      dsimp only
      rw [bind_apply, giveUp_apply]
      rfl
    | cancelled =>
      dsimp only
      rw [bind_apply, giveUp_apply]
      rfl
    | raises kind message =>
      rw [Child.signals, List.map_nil, Scene.act_nil]
      rfl

theorem executing_apply (l : Launcher) (script : Text) (s : Scene) :
    l.executing script s = (l.meaning (l.ending (s.attempts.headD default)),
      s.spawned (l.tell script (s.attempts.headD default))) := by
  unfold executing
  rw [bind_apply, Procedure.spawn]
  dsimp only
  rw [Scene.spawned, argv_tell, env_tell, signals_tell]
  cases s.attempts.headD default with
  | started c => exact attend_apply l s.tries c _
  | refused why text => exact congrArg (Prod.mk _) (Scene.act_nil _).symm

theorem diagnosing_apply (l : Launcher) (s : Scene) :
    l.diagnosing s = (describe (l.meaning (l.ending (s.attempts.headD default))),
      s.spawned (l.tell diagnosticScript (s.attempts.headD default))) := by
  rw [diagnosing, Procedure.handle, executing_apply]

/-- Step by step, a run takes the course that it takes as work. -/
theorem running_apply (l : Launcher) (script : Text) (package : Option Text) (s : Scene) :
    let a := (l.run script package).perform s.attempts
    l.running script package s = (a.outcome, a.spawns.foldl Scene.spawned s) := by
  intro a
  have hcourse : Course l script package _ _ a.outcome a.spawns := course_run l script package s.attempts
  unfold running
  rw [bind_apply, executing_apply]
  generalize a.outcome = outcome, a.spawns = spawns at hcourse
  cases hcourse with
  | result printed quiet told =>
    rw [printed, meaning]
    dsimp only
    rw [Text.isBlank_iff_strip_eq_nil.mpr quiet, Text.isBlank_eq_false_iff.mpr told]
    rfl
  | silence printed quiet blank =>
    rw [printed, meaning]
    dsimp only
    rw [Text.isBlank_iff_strip_eq_nil.mpr quiet, Text.isBlank_iff_strip_eq_nil.mpr blank]
    rfl
  | complaint printed heard =>
    rw [printed, meaning]
    dsimp only
    rw [Text.isBlank_eq_false_iff.mpr heard, Bool.not_false, if_pos rfl, bind_apply, diagnosing_apply]
    have hattempts : (s.spawned (l.tell script (s.attempts.headD default))).attempts =
        s.attempts.tail := rfl
    rw [hattempts]
    cases describe (l.meaning (l.ending (s.attempts.tail.headD default))) <;> rfl
  | failed means => rw [means]; rfl
  | cancelled means => rw [means]; rfl
  | crashed means => rw [means]; rfl

theorem procedure_apply (l : Launcher) (call : Call) (s : Scene) :
    let a := l.activity s.attempts call
    l.procedure call s = (a.outcome, a.spawns.foldl Scene.spawned s) := by
  cases call with
  | run script package => exact running_apply l script package s
  | diagnostics =>
    rw [procedure, diagnosing_apply, activity, diagnostics, perform_execute]
    rfl

theorem attempts_foldl_spawned (spawns : List Spawn) (s : Scene) :
    (spawns.foldl Scene.spawned s).attempts = s.attempts.drop spawns.length := by
  induction spawns generalizing s with
  | nil => rfl
  | cons p rest ih =>
    rw [List.foldl_cons, ih, List.length_cons]
    exact List.drop_tail

/-- A session of calls comes to what the activities of its calls come to, and does what they have on
record. -/
theorem session_eq (l : Launcher) (calls : List Call) (s : Scene) :
    l.session calls s = (l.history calls s.attempts).foldl Scene.performed s := by
  induction calls generalizing s with
  | nil => rfl
  | cons call rest ih =>
    rw [session, procedure_apply]
    dsimp only
    rw [ih, history, List.foldl_cons, ← attempts_foldl_spawned]
    rfl

end JuliaLookup.Launcher
