import JuliaLookup.Proofs.Desk.Containment
import JuliaLookup.Proofs.Launcher.Telling

/-!
# Answers that can be shown

Where the desk runs its scripts by a launcher, every answer has a text, and every answer that tells of no
failure has one that can be shown as it is. The cache only ever passes on what a run came to, so however
long ago an entry was stored, it can be shown too. Main statement: `answer_presentable`, which counts the
processes of a call as well.
-/

namespace JuliaLookup

theorem Refusal.message_ne_nil (r : Refusal) : r.message ≠ [] := by
  cases r <;> exact List.append_ne_nil_of_left_ne_nil (by decide) _

namespace Desk

variable {τ : Type}

/-- How many processes a turn tried to start. -/
def Turn.processes {ρ : Type} (t : Turn τ ρ) : Nat :=
  match t.run with
  | some (_, activity) => activity.spawns.length
  | none => 0

section Calls

variable [Sub τ] [LT τ] [DecidableRel (α := τ) (· < ·)] {runner : Runner} {now later lifetime : τ}
  {operation arguments : Value} {given : Entries} {c : Cache τ} {turn : Turn τ Reply} {a : Answer}
  {e : Cache.Entry τ}

/-! ### Where texts come from -/

/-- An answer tells of a refusal, or what an entry holds, or what a script came to. -/
theorem Course.answer_cases (h : Course runner now later operation given c turn)
    (hanswer : turn.reply = .answer a) :
    (∃ refusal : Refusal, a = failureAnswer refusal.failure) ∨
      (∃ e ∈ c.entries, a.text = e.value) ∨
      (∃ script, (runner script).outcome = .done a.text) ∨
      ∃ script f, (runner script).outcome = .failed f ∧ a = failureAnswer f := by
  cases h with
  | @refused refusal =>
    cases hanswer
    exact .inl ⟨refusal, rfl⟩
  | @hit request e call found =>
    cases hanswer
    have hmem := (Cache.mem_of_entry?_eq_some found).1
    exact .inr (.inl ⟨e, hmem, rfl⟩)
  | @unwritten request refusal =>
    cases hanswer
    exact .inl ⟨refusal, rfl⟩
  | @ran request script =>
    have hreply : replyTo (runner script).outcome = .answer a := hanswer
    cases houtcome : (runner script).outcome with
    | done text =>
      rw [houtcome] at hreply
      cases hreply
      exact .inr (.inr (.inl ⟨script, houtcome⟩))
    | failed f =>
      rw [houtcome] at hreply
      cases hreply
      exact .inr (.inr (.inr ⟨script, f, houtcome, rfl⟩))
    | cancelled =>
      rw [houtcome] at hreply
      cases hreply
    | crashed why =>
      rw [houtcome] at hreply
      cases hreply

/-- What a call leaves in the cache was there before, or a script came to it. -/
theorem Course.mem_cache (h : Course runner now later operation given c turn)
    (he : e ∈ turn.cache.entries) :
    e ∈ c.entries ∨ ∃ script, (runner script).outcome = .done e.value := by
  cases h with
  | refused => exact .inl he
  | hit => exact .inl he
  | unwritten => exact .inl (Cache.mem_of_mem_get he)
  | @ran request script =>
    rcases finish_cache later request (runner script).outcome (c.get now request.key).2 with
      ⟨text, hdone, hcache⟩ | ⟨-, hcache⟩
    · have hset : e ∈ ((c.get now request.key).2.set later request.key text).entries := hcache ▸ he
      rcases Cache.mem_set hset with rfl | hbefore
      · exact .inr ⟨script, hdone⟩
      · exact .inl (Cache.mem_of_mem_get hbefore)
    · have hget : e ∈ (c.get now request.key).2.entries := hcache ▸ he
      exact .inl (Cache.mem_of_mem_get hget)

theorem mem_cache_turn (visit : Visit τ) (he : e ∈ (visit.turn runner c).cache.entries) :
    e ∈ c.entries ∨ ∃ script, (runner script).outcome = .done e.value := by
  cases visit with
  | clear => cases he
  | call now later operation arguments =>
    cases arguments with
    | object given => exact (course_call runner now later operation given c).mem_cache he
    | _ => exact .inl he

/-- Whatever an entry holds, a script came to it at one of the visits. -/
theorem exists_done_of_mem_cacheAfter {visits : List (Runner × Visit τ)}
    (he : e ∈ (cacheAfter lifetime visits).entries) :
    ∃ v ∈ visits, ∃ script, (v.1 script).outcome = .done e.value := by
  induction visits using List.reverseRecOn with
  | nil => cases he
  | append_singleton visits v ih =>
    rw [cacheAfter, List.foldl_concat, ← cacheAfter] at he
    rcases mem_cache_turn v.2 he with hbefore | ⟨script, hdone⟩
    · obtain ⟨u, hu, hran⟩ := ih hbefore
      exact ⟨u, List.mem_append_left _ hu, hran⟩
    · exact ⟨v, List.mem_append_right _ (List.mem_singleton_self v), script, hdone⟩

/-! ### Processes -/

theorem processes_answer_of_no_request (runner : Runner) (now later : τ) (c : Cache τ)
    (h : requestOf? operation arguments = none) :
    (answer runner now later operation arguments c).processes = 0 := by
  cases arguments with
  | object given =>
    cases hcall : Request.ofCall operation given with
    | error refusal =>
      obtain ⟨-, hrun⟩ := (course_call runner now later operation given c).of_refused hcall
      show Turn.processes (call runner now later operation given c) = 0
      rw [Turn.processes, hrun]
    | ok request =>
      rw [requestOf?_object_eq_some_iff.mpr hcall] at h
      cases h
  | _ => rfl

theorem processes_answer_of_found {request : Request} {text : Text} (runner : Runner) (later : τ)
    (hrequest : requestOf? operation arguments = some request)
    (hfound : (c.find now request.key).value? = some text) :
    (answer runner now later operation arguments c).reply = .answer { text, cached := true } ∧
      (answer runner now later operation arguments c).processes = 0 := by
  cases arguments with
  | object given =>
    have hcall := requestOf?_object_eq_some_iff.mp hrequest
    obtain ⟨hreply, hrun⟩ := call_of_found runner now later hcall hfound
    refine ⟨hreply, ?_⟩
    show Turn.processes (call runner now later operation given c) = 0
    rw [Turn.processes, hrun]
  | _ => cases hrequest

/-- What a call tries that is run, its script tries. -/
theorem exists_processes_of_missed {request : Request} (runner : Runner) (later : τ)
    (hrequest : requestOf? operation arguments = some request)
    (hmissed : (c.find now request.key).value? = none) :
    ∃ script, (answer runner now later operation arguments c).processes =
      (runner script).spawns.length := by
  cases arguments with
  | object given =>
    have hcall := requestOf?_object_eq_some_iff.mp hrequest
    obtain ⟨-, hreads⟩ := Request.ofCall_eq_ok_iff.mp hcall
    obtain ⟨script, hscript⟩ := hreads.exists_script
    have hserve := serve_eq_call runner now later c hcall
    rw [hmissed, serve, hscript] at hserve
    have hrun : (call runner now later operation given c).run = some (script, runner script) :=
      (Prod.mk.inj hserve).2.symm
    refine ⟨script, ?_⟩
    show Turn.processes (call runner now later operation given c) = _
    rw [Turn.processes, hrun]
  | _ => cases hrequest

/-! ### Calls that a launcher serves -/

section Launched

variable {l : Launcher} {attempts : List Attempt}

/-- Whatever has been kept, the processes printed it. -/
theorem isPresentable_of_mem_cacheAfter {earlier : List (List Attempt × Visit τ)}
    (he : e ∈ (cacheAfter lifetime (earlier.map fun v => (l.runner v.1, v.2))).entries) :
    e.value.IsPresentable := by
  obtain ⟨v, hv, script, hdone⟩ := exists_done_of_mem_cacheAfter he
  obtain ⟨u, -, rfl⟩ := List.mem_map.mp hv
  exact Launcher.isPresentable_of_runner hdone

variable (hkept : ∀ e ∈ c.entries, e.value.IsPresentable)
include hkept

/-- A call keeps nothing that cannot be shown. -/
theorem isPresentable_of_mem_answer
    (he : e ∈ (answer (l.runner attempts) now later operation arguments c).cache.entries) :
    e.value.IsPresentable := by
  have hturn : e ∈ ((Visit.call now later operation arguments).turn (l.runner attempts) c).cache.entries :=
    he
  rcases mem_cache_turn _ hturn with hbefore | ⟨script, hdone⟩
  · exact hkept e hbefore
  · exact Launcher.isPresentable_of_runner hdone

/-- An answer has a text, and only one that tells of a failure may have one that cannot be shown. -/
theorem isPresentable_of_answer
    (hanswer : (answer (l.runner attempts) now later operation arguments c).reply = .answer a) :
    a.text ≠ [] ∧ (a.isError = false → a.text.IsPresentable) := by
  cases arguments with
  | object given =>
    have hcourse := course_call (l.runner attempts) now later operation given c
    rcases hcourse.answer_cases hanswer with
      ⟨refusal, rfl⟩ | ⟨e, he, htext⟩ | ⟨script, hdone⟩ | ⟨script, f, hfailed, rfl⟩
    · have hmessage : refusal.failure.message ≠ [] := refusal.message_ne_nil
      exact ⟨Failure.render_ne_nil hmessage, nofun⟩
    · have hshown : a.text.IsPresentable := htext ▸ hkept e he
      exact ⟨hshown.ne_nil, fun _ => hshown⟩
    · have hshown : a.text.IsPresentable := Launcher.isPresentable_of_runner hdone
      exact ⟨hshown.ne_nil, fun _ => hshown⟩
    · exact ⟨Failure.render_ne_nil (Launcher.message_ne_nil_of_runner hfailed), nofun⟩
  | _ => cases hanswer

end Launched

/-- Begin with an empty cache, and let calls come one after another and entries be dropped in between,
whatever the clock shows and whatever the processes do. Then every answer to the next call has a text, and
one that tells of no failure can be shown as it is, as can every entry that the call leaves. The call tries
no process if its arguments make no request or the look-up of its key finds a text, which is the answer
then, and one or two otherwise. -/
theorem answer_presentable (l : Launcher) (lifetime : τ) (earlier : List (List Attempt × Visit τ))
    (attempts : List Attempt) (now later : τ) (operation arguments : Value) :
    let c := cacheAfter lifetime (earlier.map fun v => (l.runner v.1, v.2))
    let turn := answer (l.runner attempts) now later operation arguments c
    (∀ a, turn.reply = .answer a →
        a.text ≠ [] ∧ (a.isError = false → a.text.IsPresentable)) ∧
      (∀ e ∈ turn.cache.entries, e.value.IsPresentable) ∧
      (requestOf? operation arguments = none → turn.processes = 0) ∧
      ∀ request, requestOf? operation arguments = some request →
        (∀ text, (c.find now request.key).value? = some text →
          turn.reply = .answer { text, cached := true } ∧ turn.processes = 0) ∧
        ((c.find now request.key).value? = none → turn.processes = 1 ∨ turn.processes = 2) := by
  intro c turn
  -- the invariant of the visits before
  have hkept : ∀ e ∈ c.entries, e.value.IsPresentable := fun e he => isPresentable_of_mem_cacheAfter he
  refine ⟨fun a => isPresentable_of_answer hkept, fun e => isPresentable_of_mem_answer hkept,
    processes_answer_of_no_request _ now later c, fun request hrequest => ⟨?_, ?_⟩⟩
  · intro text hfound
    exact processes_answer_of_found (l.runner attempts) later hrequest hfound
  · intro hmissed
    obtain ⟨script, hprocesses⟩ := exists_processes_of_missed (l.runner attempts) later hrequest hmissed
    have hcount : turn.processes = (l.runner attempts script).spawns.length := hprocesses
    rw [hcount]
    exact Launcher.length_spawns_runner l attempts script

end Calls

end Desk

end JuliaLookup
