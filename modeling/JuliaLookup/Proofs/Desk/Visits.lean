import JuliaLookup.Proofs.Desk.Course

/-!
# Visits to a desk

Calls come one after another, each with its own readings of the clock, and now and then everything that is
kept is dropped. Beside the desk with its cache stands a desk without one, which checks a call, writes its
script and runs it, every time.
-/

namespace JuliaLookup

/-- A reply that does not say whether it came from the cache. -/
def Reply.fresh : Reply → Reply
  | .answer a => .answer { a with cached := false }
  | r => r

namespace Desk

variable {τ : Type}

@[simp] theorem fresh_replyTo (outcome : Outcome Text) : (replyTo outcome).fresh = replyTo outcome := by
  cases outcome <;> rfl

/-- What comes to a desk. The clock shows `now` when a call is received and `later` when it is finished;
the readings of different calls need not be in any order. -/
inductive Visit (τ : Type) where
  | call (now later : τ) (operation arguments : Value)
  | clear

/-- The script that a turn ran, if any. -/
def Turn.script? {ρ : Type} (t : Turn τ ρ) : Option Script := t.run.map Prod.fst

section Turns

variable [Sub τ] [LT τ] [DecidableRel (α := τ) (· < ·)]

/-- What comes of a visit. Only a call has a reply. -/
def Visit.turn (runner : Runner) : Visit τ → Cache τ → Turn τ (Option Reply)
  | call now later operation arguments, c =>
    let t := answer runner now later operation arguments c
    { reply := some t.reply, cache := t.cache, events := t.events, run := t.run }
  | clear, c => { reply := none, cache := c.clear, events := [c.clearEvent] }

/-- What comes of visits one after another, each with the runner that serves it. -/
def turns : List (Runner × Visit τ) → Cache τ → List (Turn τ (Option Reply))
  | [], _ => []
  | (runner, visit) :: rest, c =>
    let turn := visit.turn runner c
    turn :: turns rest turn.cache

end Turns

/-! ### Without a cache -/

/-- What a call comes to at a desk without a cache: the reply, and the script that was run. -/
def direct (runner : Runner) (operation arguments : Value) : Reply × Option Script :=
  match arguments with
  | .object given =>
    match (Request.ofCall operation given).bind Request.script with
    | .error refusal => (.answer (failureAnswer refusal.failure), none)
    | .ok script => (replyTo (runner script).outcome, some script)
  | v => (.crashed (.noNames v.kind), none)

/-- What a visit comes to at a desk without a cache. -/
def Visit.direct (runner : Runner) : Visit τ → Option Reply × Option Script
  | call _ _ operation arguments =>
    let (reply, script) := Desk.direct runner operation arguments
    (some reply, script)
  | clear => (none, none)

variable {runner : Runner} {operation : Value} {given : Entries}

theorem direct_of_refused {refusal : Refusal} (h : Request.ofCall operation given = .error refusal) :
    direct runner operation (.object given) = (.answer (failureAnswer refusal.failure), none) := by
  simp only [direct, h]
  rfl

theorem direct_of_unwritten {request : Request} {refusal : Refusal}
    (h : Request.ofCall operation given = .ok request) (hscript : request.script = .error refusal) :
    direct runner operation (.object given) = (.answer (failureAnswer refusal.failure), none) := by
  simp only [direct, h, Except.bind, hscript]

theorem direct_of_written {request : Request} {script : Script}
    (h : Request.ofCall operation given = .ok request) (hscript : request.script = .ok script) :
    direct runner operation (.object given) = (replyTo (runner script).outcome, some script) := by
  simp only [direct, h, Except.bind, hscript]

end Desk

end JuliaLookup
