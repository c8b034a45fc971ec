import JuliaLookup.Desk
import JuliaLookup.Proofs.Cache.Entries

/-!
# The course of a call

A call is refused, answered from the cache, refused by the writer of scripts, or run. `Course` says for
each of the four what the caller gets, what becomes of the cache, what is reported and what was run; a
call takes one of the four courses, and results about calls go by cases on it.
-/

namespace JuliaLookup.Desk

variable {τ : Type}

/-- What runs scripts. -/
abbrev Runner := Script → Activity Text

/-- What the caller gets when a script has run. -/
def replyTo : Outcome Text → Reply
  | .done text => .answer { text }
  | .failed f => .answer (failureAnswer f)
  | .cancelled => .cancelled
  | .crashed why => .crashed why

theorem finish_result (now : τ) (request : Request) (outcome : Outcome Text) (c : Cache τ) :
    (finish now request outcome c).result = replyTo outcome := by
  cases outcome <;> rfl

/-- Only a text is stored. -/
theorem finish_cache (now : τ) (request : Request) (outcome : Outcome Text) (c : Cache τ) :
    (∃ text, outcome = .done text ∧
        (finish now request outcome c).cache = c.set now request.key text) ∨
      ((∀ text, outcome ≠ .done text) ∧ (finish now request outcome c).cache = c) := by
  cases outcome with
  | done text => exact .inl ⟨text, rfl, rfl⟩
  | failed f => exact .inr ⟨nofun, rfl⟩
  | cancelled => exact .inr ⟨nofun, rfl⟩
  | crashed why => exact .inr ⟨nofun, rfl⟩

section Calls

variable [Sub τ] [LT τ] [DecidableRel (α := τ) (· < ·)]

/-- The courses of a call, with the turn that each makes. -/
inductive Course (runner : Runner) (now later : τ) (operation : Value) (given : Entries)
    (c : Cache τ) : Turn τ Reply → Prop where
  /-- The arguments make no request. -/
  | refused {refusal : Refusal} (call : Request.ofCall operation given = .error refusal) :
    Course runner now later operation given c
      { reply := .answer (failureAnswer refusal.failure)
        cache := c
        events := [callEvent operation given, failureEvent refusal.failure] }
  /-- The request is answered from the cache. -/
  | hit {request : Request} {e : Cache.Entry τ} (call : Request.ofCall operation given = .ok request)
    (found : c.entry? request.key = some e) (live : c.isExpired now e = false) :
    Course runner now later operation given c
      { reply := .answer { text := e.value, cached := true }
        cache := c
        events := [callEvent operation given, hitEvent request.key] }
  /-- The request cannot be put as a script. -/
  | unwritten {request : Request} {refusal : Refusal}
    (call : Request.ofCall operation given = .ok request)
    (missed : (c.find now request.key).value? = none) (script : request.script = .error refusal) :
    Course runner now later operation given c
      { reply := .answer (failureAnswer refusal.failure)
        cache := (c.get now request.key).2
        events := callEvent operation given ::
          ((c.find now request.key).events request.key ++ [failureEvent refusal.failure]) }
  /-- The script of the request is run. -/
  | ran {request : Request} {script : Script} (call : Request.ofCall operation given = .ok request)
    (missed : (c.find now request.key).value? = none) (written : request.script = .ok script) :
    Course runner now later operation given c
      { reply := replyTo (runner script).outcome
        cache := (finish later request (runner script).outcome (c.get now request.key).2).cache
        events := callEvent operation given :: (c.find now request.key).events request.key ++
          (runner script).events ++
          (finish later request (runner script).outcome (c.get now request.key).2).events
        run := some (script, runner script) }

/-- What a look-up of a checked request comes to. -/
theorem lookUp_cases (now : τ) (request : Request) (c : Cache τ) :
    (∃ e, c.entry? request.key = some e ∧ c.isExpired now e = false ∧
        lookUp now request c =
          { result := .answered { text := e.value, cached := true }, cache := c
            events := [hitEvent request.key] }) ∨
      ((c.find now request.key).value? = none ∧
        lookUp now request c =
          match request.script with
          | .ok script =>
            { result := .pending request script, cache := (c.get now request.key).2
              events := (c.find now request.key).events request.key }
          | .error refusal =>
            { result := .answered (failureAnswer refusal.failure)
              cache := (c.get now request.key).2
              events := (c.find now request.key).events request.key ++
                [failureEvent refusal.failure] }) := by
  have hfst := c.get_fst now request.key
  rcases Cache.get_cases c now request.key with
    ⟨hnone, hget⟩ | ⟨e, hentry, hlive, hget⟩ | ⟨e, hentry, hold, hget⟩
  · rw [hget] at hfst
    exact .inr ⟨by rw [← hfst]; rfl, by rw [lookUp, hget, ← hfst]; rfl⟩
  · exact .inl ⟨e, hentry, hlive, by rw [lookUp, hget]; rfl⟩
  · rw [hget] at hfst
    exact .inr ⟨by rw [← hfst]; rfl, by rw [lookUp, hget, ← hfst]; rfl⟩

/-- A call takes one of the courses. -/
theorem course_call (runner : Runner) (now later : τ) (operation : Value) (given : Entries)
    (c : Cache τ) :
    Course runner now later operation given c (call runner now later operation given c) := by
  unfold call receive
  cases hcall : Request.ofCall operation given with
  | error refusal => exact .refused hcall
  | ok request =>
    rcases lookUp_cases now request c with ⟨e, hentry, hlive, hlook⟩ | ⟨hmiss, hlook⟩
    · simp only [hlook]
      exact .hit hcall hentry hlive
    · cases hscript : request.script with
      | error refusal =>
        simp only [hlook, hscript]
        exact .unwritten hcall hmiss hscript
      | ok script =>
        simp only [hlook, hscript, finish_result]
        exact .ran hcall hmiss hscript

end Calls

end JuliaLookup.Desk
