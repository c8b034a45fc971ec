import JuliaLookup.Proofs.Desk.Records

/-!
# What leaves a desk

A call ends with an answer, whatever is asked and whatever the cache holds: a failure, wherever it comes up,
is told in the answer and goes no further. Only what stops a run without being a failure goes past the desk.
Main statement: `call_answers_failures`.
-/

namespace JuliaLookup.Desk

variable {τ : Type} {ρ : Type}

/-- What the run of a turn reports, if there is a run. -/
def Turn.runEvents (t : Turn τ ρ) : List Event :=
  match t.run with
  | some (_, activity) => activity.events
  | none => []

/-- Whether an event tells of a hit or of a failure. -/
def isClosing (e : Event) : Bool := e.name == "cache_hit" || e.name == "tool_failed"

variable {operation : Value} {given : Entries} {request : Request} {refusal : Refusal}

theorem countP_isClosing_callEvent (events : List Event) :
    (callEvent operation given :: events).countP isClosing = events.countP isClosing :=
  List.countP_cons_of_neg (by nofun)

theorem countP_isClosing_found (found : Cache.Found) (key : Text) :
    (found.events key).countP isClosing = 0 := by
  cases found <;> rfl

theorem countP_isClosing_finish_le (later : τ) (request : Request) (outcome : Outcome Text)
    (c : Cache τ) : (finish later request outcome c).events.countP isClosing ≤ 1 := by
  cases outcome with
  | failed f => exact List.countP_le_length
  | done text => exact Nat.zero_le 1
  | cancelled => exact Nat.zero_le 1
  | crashed why => exact Nat.zero_le 1

theorem isError_replyTo {outcome : Outcome Text} {a : Answer} (h : replyTo outcome = .answer a) :
    a.isError = true ↔ ∃ f, outcome = .failed f := by
  cases outcome with
  | done text =>
    cases h
    exact ⟨nofun, nofun⟩
  | failed f =>
    cases h
    exact ⟨fun _ => ⟨f, rfl⟩, fun _ => rfl⟩
  | cancelled => cases h
  | crashed why => cases h

/-- The writer of scripts refuses no request that the checks let through. -/
theorem script_ne_error (hcall : Request.ofCall operation given = .ok request) :
    request.script ≠ .error refusal := by
  obtain ⟨-, hreads⟩ := Request.ofCall_eq_ok_iff.mp hcall
  obtain ⟨script, hscript⟩ := hreads.exists_script
  rw [hscript]
  nofun

section Calls

variable [Sub τ] [LT τ] [DecidableRel (α := τ) (· < ·)]
  {runner : Runner} {now later : τ} {c : Cache τ} {turn : Turn τ Reply}

/-- A runner is asked for one script at most, and a call depends on nothing else about it. -/
theorem call_congr_runner (other : Runner)
    (hsame : ∀ script activity, (call runner now later operation given c).run = some (script, activity) →
      other script = activity) :
    call other now later operation given c = call runner now later operation given c := by
  unfold call at hsame ⊢
  dsimp only at hsame ⊢
  cases hreceived : (receive now operation given c).result with
  | answered a => rfl
  | pending request script =>
    rw [hreceived] at hsame
    have hscript : other script = runner script := hsame script (runner script) rfl
    simp only [hscript]

namespace Course

/-- A call ends with an answer, or its run was stopped by something that is no failure. -/
theorem reply_cases (h : Course runner now later operation given c turn) :
    (∃ a, turn.reply = .answer a) ∨
      ∃ script activity, turn.run = some (script, activity) ∧
        (activity.outcome = .cancelled ∧ turn.reply = .cancelled ∨
          ∃ why, activity.outcome = .crashed why ∧ turn.reply = .crashed why) := by
  cases h with
  | refused => exact .inl ⟨_, rfl⟩
  | hit => exact .inl ⟨_, rfl⟩
  | unwritten => exact .inl ⟨_, rfl⟩
  | @ran request script =>
    cases houtcome : (runner script).outcome with
    | done text => exact .inl ⟨_, rfl⟩
    | failed f => exact .inl ⟨_, rfl⟩
    | cancelled => exact .inr ⟨script, runner script, rfl, .inl ⟨houtcome, rfl⟩⟩
    | crashed why => exact .inr ⟨script, runner script, rfl, .inr ⟨why, houtcome, rfl⟩⟩

/-- What is run is the script of the request, and only where the look-up of its key found nothing. -/
theorem run_eq_some_iff (h : Course runner now later operation given c turn) {script : Script}
    {activity : Activity Text} : turn.run = some (script, activity) ↔
      ∃ request, Request.ofCall operation given = .ok request ∧
        (c.find now request.key).value? = none ∧ request.script = .ok script ∧
        activity = runner script := by
  cases h with
  | refused call =>
    constructor
    · nofun
    · rintro ⟨request, hcall, -⟩
      cases hcall.symm.trans call
  | hit call found live =>
    constructor
    · nofun
    · rintro ⟨request, hcall, hmissed, -⟩
      cases hcall.symm.trans call
      have hfound := Cache.value?_find_eq_some_iff.mpr ⟨_, found, rfl, by simpa [Cache.isExpired] using live⟩
      cases hmissed.symm.trans hfound
  | unwritten call missed script => exact absurd script (script_ne_error call)
  | @ran request script' call missed written =>
    constructor
    · rintro h
      cases h
      exact ⟨request, call, missed, written, rfl⟩
    · rintro ⟨request', hcall, -, hscript, rfl⟩
      cases hcall.symm.trans call
      cases hscript.symm.trans written
      rfl

/-- Two things make an answer tell of a failure: the call is refused, or its run fails. -/
theorem isError_iff (h : Course runner now later operation given c turn) {a : Answer}
    (hanswer : turn.reply = .answer a) : a.isError = true ↔
      (∃ refusal, Request.ofCall operation given = .error refusal) ∨
        ∃ script activity f, turn.run = some (script, activity) ∧ activity.outcome = .failed f := by
  cases h with
  | refused call =>
    cases hanswer
    exact ⟨fun _ => .inl ⟨_, call⟩, fun _ => rfl⟩
  | hit call =>
    cases hanswer
    rw [call]
    exact ⟨nofun, by rintro (⟨_, ⟨⟩⟩ | ⟨_, _, _, ⟨⟩, -⟩)⟩
  | unwritten call missed script => exact absurd script (script_ne_error call)
  | @ran request script call =>
    rw [isError_replyTo hanswer, call]
    constructor
    · rintro ⟨f, hf⟩
      exact .inr ⟨script, runner script, f, rfl, hf⟩
    · rintro (⟨_, ⟨⟩⟩ | ⟨_, _, f, ⟨⟩, hf⟩)
      exact ⟨f, hf⟩

/-- The answer to a call that is refused. -/
theorem of_refused (h : Course runner now later operation given c turn)
    (hrefused : Request.ofCall operation given = .error refusal) :
    turn.reply = .answer (failureAnswer refusal.failure) ∧ turn.run = none := by
  cases h with
  | refused call =>
    cases call.symm.trans hrefused
    exact ⟨rfl, rfl⟩
  | hit call => cases call.symm.trans hrefused
  | unwritten call => cases call.symm.trans hrefused
  | ran call => cases call.symm.trans hrefused

/-- The reply to a call that is run. -/
theorem reply_of_run (h : Course runner now later operation given c turn) {script : Script}
    {activity : Activity Text} (hrun : turn.run = some (script, activity)) :
    turn.reply = replyTo activity.outcome := by
  cases h with
  | refused => cases hrun
  | hit => cases hrun
  | unwritten => cases hrun
  | ran =>
    cases hrun
    rfl

/-- A call reports at most one hit or failure beside what its run reports. -/
theorem countP_isClosing_le (h : Course runner now later operation given c turn) :
    turn.events.countP isClosing ≤ turn.runEvents.countP isClosing + 1 := by
  cases h with
  | refused =>
    rw [countP_isClosing_callEvent]
    exact List.countP_le_length
  | hit =>
    rw [countP_isClosing_callEvent]
    exact List.countP_le_length
  | unwritten call missed script => exact absurd script (script_ne_error call)
  | @ran request script =>
    have hfinish := countP_isClosing_finish_le later request (runner script).outcome
      (c.get now request.key).2
    rw [List.cons_append, List.cons_append, countP_isClosing_callEvent, List.countP_append,
      List.countP_append, countP_isClosing_found, Turn.runEvents]
    dsimp only
    omega

end Course

/-- Failures do not leave a desk. A call ends with an answer, or its run was stopped by what is no failure,
and that is passed on. An answer tells of a failure if and only if the call was refused or its run failed,
and then it is what the failure renders to, and not from the cache. What is run, if anything, is the script
of the request, once, and only where the look-up of its key found nothing; so no answer from the cache comes
with a run. Beside what the run reports, a call reports at most one hit or failure. -/
theorem call_answers_failures (runner : Runner) (now later : τ) (operation : Value) (given : Entries)
    (c : Cache τ) :
    let turn := call runner now later operation given c
    ((∃ a, turn.reply = .answer a) ∨
        ∃ script activity, turn.run = some (script, activity) ∧
          (activity.outcome = .cancelled ∧ turn.reply = .cancelled ∨
            ∃ why, activity.outcome = .crashed why ∧ turn.reply = .crashed why)) ∧
      (∀ a, turn.reply = .answer a → (a.isError = true ↔
        (∃ refusal, Request.ofCall operation given = .error refusal) ∨
          ∃ script activity f, turn.run = some (script, activity) ∧ activity.outcome = .failed f)) ∧
      (∀ refusal, Request.ofCall operation given = .error refusal → turn.run = none ∧
        turn.reply = .answer { text := refusal.failure.render, cached := false, isError := true }) ∧
      (∀ script activity f, turn.run = some (script, activity) → activity.outcome = .failed f →
        turn.reply = .answer { text := f.render, cached := false, isError := true }) ∧
      (∀ script activity, turn.run = some (script, activity) ↔
        ∃ request, Request.ofCall operation given = .ok request ∧
          (c.find now request.key).value? = none ∧ request.script = .ok script ∧
          activity = runner script) ∧
      (∀ other : Runner, (∀ script activity, turn.run = some (script, activity) →
        other script = activity) → call other now later operation given c = turn) ∧
      (∀ a, turn.reply = .answer a → a.cached = true → turn.run = none) ∧
      turn.events.countP isClosing ≤ turn.runEvents.countP isClosing + 1 := by
  intro turn
  have hcourse : Course runner now later operation given c turn :=
    course_call runner now later operation given c
  refine ⟨hcourse.reply_cases, fun a => hcourse.isError_iff, ?_, ?_, ?_, call_congr_runner, ?_,
    hcourse.countP_isClosing_le⟩
  · intro refusal hrefused
    obtain ⟨hreply, hrun⟩ := hcourse.of_refused hrefused
    exact ⟨hrun, hreply⟩
  · intro script activity f hrun hfailed
    rw [hcourse.reply_of_run hrun, hfailed]
    rfl
  · exact fun script activity => hcourse.run_eq_some_iff
  · intro a hanswer hcached
    cases hrun : turn.run with
    | none => rfl
    | some ran =>
      obtain ⟨script, activity⟩ := ran
      rw [hcourse.reply_of_run hrun] at hanswer
      rw [cached_replyTo hanswer] at hcached
      cases hcached

end Calls

end JuliaLookup.Desk
