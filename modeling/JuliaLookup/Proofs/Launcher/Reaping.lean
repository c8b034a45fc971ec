import JuliaLookup.Proofs.Launcher.Procedure
import Mathlib.Data.List.Induction

/-!
# No process is left behind

Between two processes of a session everything is settled: each process tried so far has had done to it what
its attempt makes due, and each call that is over found it so. One process keeps this, so does a call, and
so does a session. Main statement: `session_leaves_none_behind`.
-/

namespace JuliaLookup.Launcher

/-- What is done to a process, in order. -/
def signalsTo (process : Nat) (deeds : List Deed) : List Signal :=
  deeds.filterMap fun
    | .signalled p signal => if p = process then some signal else none
    | _ => none

/-- The attempt starts a process that is given up: the time runs out or the work is cancelled, and the
return code of the process is not known then. -/
def GivesUp (l : Launcher) (a : Attempt) : Prop :=
  ∃ c, a = .started c ∧ (l.waits c = .timesOut ∨ l.waits c = .cancelled) ∧ c.ended = false

section Signals

variable {l : Launcher} {a : Attempt} {k n : Nat} {ds ds' : List Deed}

@[simp] theorem signalsTo_append : signalsTo k (ds ++ ds') = signalsTo k ds ++ signalsTo k ds' :=
  List.filterMap_append

@[simp] theorem signalsTo_over {outcome : Outcome Text} : signalsTo k [.over outcome] = [] := rfl

/-- What is done to one process is done to that process only. -/
theorem signalsTo_tried {argv : List Text} {env : Entries} (signals : List Signal) :
    signalsTo k (.tried n argv env :: signals.map (.signalled n)) = if n = k then signals else [] := by
  have hskip : signalsTo k (.tried n argv env :: signals.map (.signalled n)) =
      signalsTo k (signals.map (.signalled n)) := rfl
  rw [hskip, signalsTo, List.filterMap_map]
  by_cases h : n = k
  · simp only [Function.comp_def, h, if_true, List.filterMap_some]
  · simp [h]

/-- A process that is given up has to be killed and then waited for. -/
theorem due_of_givesUp (hwait : l.cannotWait = false) (h : l.GivesUp a) : l.due a = [.kill, .wait] := by
  obtain ⟨c, rfl, hwaits, hrunning⟩ := h
  rw [due, hwait, if_neg Bool.false_ne_true]
  have hterminate : c.terminate = [.kill, .wait] := by
    rw [Child.terminate, hrunning, if_neg Bool.false_ne_true]
  rcases hwaits with hw | hw
  · rw [hw]
    exact hterminate
  · rw [hw]
    exact hterminate

/-- Nothing has to be done to any other process. -/
theorem due_of_not_givesUp (h : ¬ l.GivesUp a) : l.due a = [] := by
  cases a with
  | refused why text => rfl
  | started c =>
    cases hwait : l.cannotWait with
    | true => rw [due, hwait, if_pos rfl]
    | false =>
      have hterminate (hwaits : l.waits c = .timesOut ∨ l.waits c = .cancelled) : c.terminate = [] := by
        cases hended : c.ended with
        | true => rw [Child.terminate, hended, if_pos rfl]
        | false => exact absurd ⟨c, rfl, hwaits, hended⟩ h
      rw [due, hwait, if_neg Bool.false_ne_true]
      cases hw : l.waits c with
      | completes => rfl
      | timesOut => exact hterminate (.inl hw)
      | cancelled => exact hterminate (.inr hw)
      | raises kind message => rfl

end Signals

/-! ### What a session keeps -/

/-- All is settled, with respect to the attempts that there were at first. -/
structure Settled (l : Launcher) (attempts : List Attempt) (s : Scene) : Prop where
  attempts_eq : s.attempts = attempts.drop s.tries
  numbered : ∀ {k argv env}, .tried k argv env ∈ s.deeds → k < s.tries
  done : ∀ k < s.tries, signalsTo k s.deeds = l.due (attempts.getD k default)
  untouched : ∀ k, s.tries ≤ k → signalsTo k s.deeds = []
  /-- Whenever a call is over, all that is due has been done. -/
  closed : ∀ {before outcome}, before ++ [.over outcome] <+: s.deeds →
    ∀ {k argv env}, .tried k argv env ∈ before → signalsTo k before = l.due (attempts.getD k default)

/-- A procedure keeps what holds of the scene, however it ends. -/
def Procedure.Keeps {α : Type} (x : Procedure α) (P : Scene → Prop) : Prop := ∀ s, P s → P (x s).2

namespace Procedure.Keeps

variable {α β : Type} {x : Procedure α} {P : Scene → Prop}

theorem stop (o : Outcome α) : (Procedure.stop o).Keeps P := fun _ h => h

theorem handle (hx : x.Keeps P) (f : Outcome α → Outcome β) : (x.handle f).Keeps P := hx

theorem bind {f : α → Procedure β} (hx : x.Keeps P) (hf : ∀ a, (f a).Keeps P) : (x >>= f).Keeps P := by
  intro s hs
  have hkept := hx s hs
  rw [bind_apply]
  cases hrun : x s with
  | mk o s' =>
    rw [hrun] at hkept
    cases o with
    | done a => exact hf a s' hkept
    | failed e => exact hkept
    | cancelled => exact hkept
    | crashed why => exact hkept

end Procedure.Keeps

section Sessions

variable {l : Launcher} {attempts : List Attempt} {s : Scene}

theorem headD_drop (k : Nat) : (attempts.drop k).headD default = attempts.getD k default := by
  rw [List.headD_eq_head?_getD, List.head?_drop, List.getD_eq_getElem?_getD]

/-- While no call is over, the calls that are over are the same. -/
theorem prefix_of_prefix_append {before ds ds' : List Deed} {outcome : Outcome Text}
    (hmore : ∀ d ∈ ds', ∀ o, d ≠ .over o) (h : before ++ [.over outcome] <+: ds ++ ds') :
    before ++ [.over outcome] <+: ds := by
  induction ds' using List.reverseRecOn with
  | nil => rwa [List.append_nil] at h
  | append_singleton ds' d ih =>
    rw [← List.append_assoc, List.prefix_concat_iff] at h
    rcases h with heq | h
    · have hlast : Deed.over outcome = d := (List.cons.inj (List.append_inj' heq rfl).2).1
      exact absurd hlast.symm (hmore d (List.mem_append_right _ List.mem_cons_self) outcome)
    · exact ih (fun d hd => hmore d (List.mem_append_left _ hd)) h

theorem settled_start (l : Launcher) (attempts : List Attempt) : Settled l attempts { attempts } where
  attempts_eq := rfl
  numbered := nofun
  done := nofun
  untouched _ _ := rfl
  closed h := absurd (List.prefix_nil.mp h) (List.append_ne_nil_of_right_ne_nil _ (List.cons_ne_nil _ _))

theorem deeds_spawned (s : Scene) (p : Spawn) : (s.spawned p).deeds =
    s.deeds ++ .tried s.tries p.argv p.env :: p.signals.map (.signalled s.tries) := by
  simp [Scene.spawned, Scene.spawn, Scene.act]

/-- A process and what is done to it leave all settled. -/
theorem Settled.spawned (h : Settled l attempts s) (script : Text) :
    Settled l attempts (s.spawned (l.tell script (s.attempts.headD default))) := by
  have hattempt : s.attempts.headD default = attempts.getD s.tries default := by
    rw [h.attempts_eq, headD_drop]
  have hdeeds := deeds_spawned s (l.tell script (s.attempts.headD default))
  rw [argv_tell, env_tell, signals_tell, hattempt] at hdeeds
  have hsignals : ∀ k, signalsTo k (s.spawned (l.tell script (s.attempts.headD default))).deeds =
      signalsTo k s.deeds ++ if s.tries = k then l.due (attempts.getD s.tries default) else [] := by
    intro k
    rw [hattempt, hdeeds, signalsTo_append, signalsTo_tried]
  constructor
  case attempts_eq =>
    show s.attempts.tail = attempts.drop (s.tries + 1)
    rw [h.attempts_eq, List.tail_drop]
  case numbered =>
    intro k argv env hmem
    rw [hattempt, hdeeds, List.mem_append, List.mem_cons] at hmem
    show k < s.tries + 1
    rcases hmem with hold | hnew | hmap
    · exact Nat.lt_succ_of_lt (h.numbered hold)
    · cases hnew
      exact Nat.lt_succ_self _
    · obtain ⟨signal, -, hsignal⟩ := List.mem_map.mp hmap
      cases hsignal
  case done =>
    intro k hk
    rw [hsignals]
    rcases Nat.lt_succ_iff_lt_or_eq.mp hk with hlt | rfl
    · rw [if_neg (Nat.ne_of_gt hlt), List.append_nil, h.done k hlt]
    · rw [if_pos rfl, h.untouched _ (Nat.le_refl _), List.nil_append]
  case untouched =>
    intro k hk
    have hlt : s.tries < k := hk
    rw [hsignals, if_neg (Nat.ne_of_lt hlt), List.append_nil, h.untouched k (Nat.le_of_lt hlt)]
  case closed =>
    intro before outcome hprefix
    rw [hattempt, hdeeds] at hprefix
    refine h.closed (prefix_of_prefix_append ?_ hprefix)
    intro d hd o ho
    subst ho
    rcases List.mem_cons.mp hd with hnew | hmap
    · cases hnew
    · obtain ⟨signal, -, hsignal⟩ := List.mem_map.mp hmap
      cases hsignal

/-- The end of a call leaves all settled. -/
theorem Settled.over (h : Settled l attempts s) (outcome : Outcome Text) :
    Settled l attempts (s.act [.over outcome]) := by
  have hsignals : ∀ k, signalsTo k (s.act [.over outcome]).deeds = signalsTo k s.deeds := by
    intro k
    rw [Scene.act, signalsTo_append, signalsTo_over, List.append_nil]
  constructor
  case attempts_eq => exact h.attempts_eq
  case numbered =>
    intro k argv env hmem
    rcases List.mem_append.mp hmem with hold | hnew
    · exact h.numbered hold
    · cases List.mem_singleton.mp hnew
  case done =>
    intro k hk
    rw [hsignals, h.done k hk]
  case untouched =>
    intro k hk
    rw [hsignals, h.untouched k hk]
  case closed =>
    intro before outcome' hprefix k argv env hmem
    rcases List.prefix_concat_iff.mp hprefix with heq | hold
    · obtain ⟨rfl, -⟩ := List.append_inj' heq rfl
      exact h.done k (h.numbered hmem)
    · exact h.closed hold hmem

theorem keeps_executing (script : Text) : (l.executing script).Keeps (Settled l attempts) := by
  intro s hs
  rw [executing_apply]
  exact hs.spawned script

theorem keeps_diagnosing : l.diagnosing.Keeps (Settled l attempts) :=
  (keeps_executing diagnosticScript).handle describe

/-- The process that describes the environment is settled like the one before it. -/
theorem keeps_running (script : Text) (package : Option Text) :
    (l.running script package).Keeps (Settled l attempts) := by
  refine (keeps_executing script).bind fun (stdout, stderr) => ?_
  dsimp only
  split
  · exact keeps_diagnosing.bind fun _ => .stop _
  · split
    · exact .stop _
    · exact .stop _

theorem settled_session (calls : List Call) (h : Settled l attempts s) :
    Settled l attempts (l.session calls s) := by
  induction calls generalizing s with
  | nil => exact h
  | cons call rest ih =>
    have hcall : (l.procedure call).Keeps (Settled l attempts) := by
      cases call with
      | run script package => exact keeps_running script package
      | diagnostics => exact keeps_diagnosing
    exact ih ((hcall s h).over _)

end Sessions

/-- A session does what the activities of its calls have on record, one deed after another. Every process
that is given up is killed and then waited for, also when it is gone, provided that its wait can begin.
Nothing is done to any other process, be it that it completed, that its return code is known, or that its
wait raised something else. No call is over before all of this is done. -/
theorem session_leaves_none_behind (l : Launcher) (calls : List Call) (attempts : List Attempt) :
    let scene := l.session calls { attempts }
    scene = (l.history calls attempts).foldl Scene.performed { attempts } ∧
      ∀ k argv env, .tried k argv env ∈ scene.deeds →
        let attempt := attempts.getD k default
        (l.GivesUp attempt → l.cannotWait = false → signalsTo k scene.deeds = [.kill, .wait]) ∧
        (¬ l.GivesUp attempt → signalsTo k scene.deeds = []) ∧
        ∀ before outcome after, scene.deeds = before ++ .over outcome :: after →
          .tried k argv env ∈ before → signalsTo k after = [] := by
  intro scene
  have hsettled : Settled l attempts scene := settled_session calls (settled_start l attempts)
  refine ⟨session_eq l calls _, fun k argv env hmem => ?_⟩
  have hdone : signalsTo k scene.deeds = l.due (attempts.getD k default) :=
    hsettled.done k (hsettled.numbered hmem)
  refine ⟨fun h hwait => hdone.trans (due_of_givesUp hwait h),
    fun h => hdone.trans (due_of_not_givesUp h), ?_⟩
  intro before outcome after hsplit hbefore
  have hprefix : before ++ [.over outcome] <+: scene.deeds :=
    ⟨after, by rw [hsplit, List.append_assoc, List.singleton_append]⟩
  have hclosed := hsettled.closed hprefix hbefore
  -- all that is due has been done by then, so nothing is left to do
  have hall : signalsTo k before ++ signalsTo k after = signalsTo k before := by
    rw [← hdone, hsplit, ← List.singleton_append, signalsTo_append, signalsTo_append, signalsTo_over,
      List.nil_append] at hclosed
    exact hclosed.symm
  exact List.append_right_eq_self.mp hall

-- the process that describes the environment runs out of time, and is gone when it is to be killed
example : signalsTo 1 (session {} [.run "" none] {
    attempts := [.started { stderr := [69] }, .started { wait := .timesOut, gone := true }] }).deeds =
    [.kill, .wait] := by decide

end JuliaLookup.Launcher
