import JuliaLookup.Proofs.Desk.Records
import Mathlib.Logic.Function.Basic

/-!
# Callers at one desk

Any number of callers share a desk. A call is received in one move; if it has to run, its caller waits, and
the call is finished in a later move, when the outcome of its run arrives. Between the two, other calls are
received and finished, the clock is set forward or back, and everything that is kept is dropped, in any
order. The room of the callers remembers how far each has come and all that has happened. `Room.Step` says
what a move can do.
-/

namespace JuliaLookup.Desk

variable {τ : Type}

/-- A call that waits for its script to run: what was asked, its request, and the script of the request. -/
structure Waiting where
  operation : Value
  given : Entries
  request : Request
  script : Script
  call_eq : Request.ofCall operation given = .ok request
  script_eq : request.script = .ok script

/-- What a waiting caller has asked. -/
def Waiting.call (w : Waiting) : Value × Value := (w.operation, .object w.given)

/-- How far a caller has come. -/
inductive Stage (τ : Type) where
  | outside
  | answered
  | waiting (w : Waiting)
  | ended (now : τ) (w : Waiting) (outcome : Outcome Text)

/-- The call of a caller who waits or has waited. -/
def Stage.call? : Stage τ → Option Waiting
  | waiting w => some w
  | ended _ w _ => some w
  | _ => none

/-- What happens at a desk, with what the clock shows. A call is answered at once, or it begins to wait and
ends when the outcome of its run is there. -/
inductive Happening (τ : Type) where
  | answered (caller : Nat) (now : τ) (operation arguments : Value) (reply : Reply)
  | began (caller : Nat) (now : τ) (w : Waiting)
  | ended (caller : Nat) (now : τ) (w : Waiting) (outcome : Outcome Text) (reply : Reply)
  | cleared

namespace Happening

/-- What a caller is told. -/
def reply? : Happening τ → Option Reply
  | answered _ _ _ _ reply => some reply
  | ended _ _ _ _ reply => some reply
  | _ => none

/-- A run with success stores its text under the key of its request. -/
def Stores (key : Text) : Happening τ → Prop
  | ended _ _ w (.done _) _ => w.request.key = key
  | _ => False

/-- The uses that are made of the cache. -/
def uses : Happening τ → List (Cache.Use τ)
  | answered _ now operation arguments _ =>
    ((requestOf? operation arguments).map fun request => .get now request.key).toList
  | began _ now w => [.get now w.request.key]
  | ended _ now w outcome _ =>
    ((result? outcome).map fun text => .set now w.request.key (.str text)).toList
  | cleared => [.clear]

end Happening

/-- The callers, the desk that they share, and what has happened so far. -/
structure Room (τ : Type) where
  cache : Cache τ
  now : τ
  stage : Nat → Stage τ := fun _ => .outside
  history : List (Happening τ) := []

/-- What may come next. -/
inductive Move (τ : Type) where
  | enter (caller : Nat) (operation arguments : Value)
  | leave (caller : Nat) (outcome : Outcome Text)
  | tick (now : τ)
  | clear

/-- Something happens to a caller, and leaves the cache as given. -/
def Room.happen (room : Room τ) (cache : Cache τ) (caller : Nat) (stage : Stage τ) (h : Happening τ) :
    Room τ :=
  { room with cache, stage := Function.update room.stage caller stage, history := room.history ++ [h] }

theorem Room.stage_happen_self (room : Room τ) (cache : Cache τ) (caller : Nat) (stage : Stage τ)
    (h : Happening τ) : (room.happen cache caller stage h).stage caller = stage := by
  simp only [happen, Function.update_self]

theorem Room.stage_happen_of_ne {caller other : Nat} (hne : other ≠ caller) (room : Room τ)
    (cache : Cache τ) (stage : Stage τ) (h : Happening τ) :
    (room.happen cache caller stage h).stage other = room.stage other := by
  simp only [happen, Function.update_of_ne hne]

section Moves

variable [Sub τ] [LT τ] [DecidableRel (α := τ) (· < ·)]
  {now : τ} {operation : Value} {given : Entries} {c : Cache τ} {request : Request}

/-- What comes of receiving a call. -/
theorem receive_cases (now : τ) (operation : Value) (given : Entries) (c : Cache τ) :
    (∃ a, a.cached = false ∧ requestOf? operation (.object given) = none ∧
        (receive now operation given c).result = .answered a ∧ (receive now operation given c).cache = c) ∨
      (∃ request e, Request.ofCall operation given = .ok request ∧ c.entry? request.key = some e ∧
        c.isExpired now e = false ∧
        (receive now operation given c).result = .answered { text := e.value, cached := true } ∧
        (receive now operation given c).cache = c) ∨
      ∃ request script, Request.ofCall operation given = .ok request ∧ request.script = .ok script ∧
        (c.find now request.key).value? = none ∧
        (receive now operation given c).result = .pending request script ∧
        (receive now operation given c).cache = (c.get now request.key).2 := by
  rw [receive]
  cases hcall : Request.ofCall operation given with
  | error refusal =>
    have hnone : requestOf? operation (.object given) = none := by
      rw [requestOf?, hcall]
      rfl
    exact .inl ⟨failureAnswer refusal.failure, rfl, hnone, rfl, rfl⟩
  | ok request =>
    obtain ⟨-, hreads⟩ := Request.ofCall_eq_ok_iff.mp hcall
    obtain ⟨script, hscript⟩ := hreads.exists_script
    rcases lookUp_cases now request c with ⟨e, hentry, hlive, hlook⟩ | ⟨hmissed, hlook⟩
    · exact .inr (.inl ⟨request, e, rfl, hentry, hlive, by simp only [hlook], by simp only [hlook]⟩)
    · rw [hscript] at hlook
      exact .inr (.inr ⟨request, script, rfl, hscript, hmissed, by simp only [hlook],
        by simp only [hlook]⟩)

theorem of_receive_pending {script : Script}
    (h : (receive now operation given c).result = .pending request script) :
    Request.ofCall operation given = .ok request ∧ request.script = .ok script := by
  rcases receive_cases now operation given c with
    ⟨a, -, -, hresult, -⟩ | ⟨r, e, -, -, -, hresult, -⟩ | ⟨r, s, hcall, hscript, -, hresult, -⟩
  · cases hresult.symm.trans h
  · cases hresult.symm.trans h
  · cases hresult.symm.trans h
    exact ⟨hcall, hscript⟩

namespace Room

/-- A caller enters and makes a call. It is answered at once, or its script begins to run. -/
def enter (caller : Nat) (operation : Value) (room : Room τ) : Value → Room τ
  | .object given =>
    match h : (receive room.now operation given room.cache).result with
    | .answered a =>
      room.happen (receive room.now operation given room.cache).cache caller .answered
        (.answered caller room.now operation (.object given) (.answer a))
    | .pending request script =>
      let w : Waiting :=
        { operation, given, request, script
          call_eq := (of_receive_pending h).1, script_eq := (of_receive_pending h).2 }
      room.happen (receive room.now operation given room.cache).cache caller (.waiting w)
        (.began caller room.now w)
  | v =>
    room.happen room.cache caller .answered
      (.answered caller room.now operation v (.crashed (.noNames v.kind)))

/-- The outcome of a run arrives, or its cancellation, and the call of its caller is finished. -/
def leave (caller : Nat) (w : Waiting) (outcome : Outcome Text) (room : Room τ) : Room τ :=
  let finished := finish room.now w.request outcome room.cache
  room.happen finished.cache caller (.ended room.now w outcome)
    (.ended caller room.now w outcome finished.result)

/-- The room after a move. Nobody enters twice, and only those who wait are finished with. -/
def move (room : Room τ) : Move τ → Room τ
  | .enter caller operation arguments =>
    match room.stage caller with
    | .outside => room.enter caller operation arguments
    | _ => room
  | .leave caller outcome =>
    match room.stage caller with
    | .waiting w => room.leave caller w outcome
    | _ => room
  | .tick now => { room with now }
  | .clear => { room with cache := room.cache.clear, history := room.history ++ [.cleared] }

/-- The room after any moves, which nobody had entered before. -/
def run (lifetime start : τ) (moves : List (Move τ)) : Room τ :=
  moves.foldl move { cache := { lifetime }, now := start }

/-- What a move can do. -/
inductive Step (room : Room τ) : Room τ → Prop where
  /-- A move that is not possible changes nothing. -/
  | stays : Step room room
  | tick (now : τ) : Step room { room with now }
  | clear : Step room { room with cache := room.cache.clear, history := room.history ++ [.cleared] }
  /-- A call that makes no request is answered without the cache. -/
  | refused {caller : Nat} {operation arguments : Value} {reply : Reply}
    (fresh : room.stage caller = .outside) (norequest : requestOf? operation arguments = none)
    (uncached : ∀ a, reply = .answer a → a.cached = false) :
    Step room (room.happen room.cache caller .answered
      (.answered caller room.now operation arguments reply))
  /-- A request is answered from the cache. -/
  | hit {caller : Nat} {operation : Value} {given : Entries} {request : Request} {e : Cache.Entry τ}
    (fresh : room.stage caller = .outside) (call_eq : Request.ofCall operation given = .ok request)
    (found : room.cache.entry? request.key = some e) (live : room.cache.isExpired room.now e = false) :
    Step room (room.happen room.cache caller .answered
      (.answered caller room.now operation (.object given) (.answer { text := e.value, cached := true })))
  /-- A request that is not found begins to run. -/
  | began {caller : Nat} (w : Waiting) (fresh : room.stage caller = .outside)
    (missed : (room.cache.find room.now w.request.key).value? = none) :
    Step room (room.happen (room.cache.get room.now w.request.key).2 caller (.waiting w)
      (.began caller room.now w))
  /-- The outcome of a run arrives. -/
  | ended {caller : Nat} {w : Waiting} (waits : room.stage caller = .waiting w) (outcome : Outcome Text) :
    Step room (room.leave caller w outcome)

variable {room : Room τ}

theorem enter_of_answered {a : Answer}
    (h : (receive room.now operation given room.cache).result = .answered a) (caller : Nat) :
    room.enter caller operation (.object given) =
      room.happen (receive room.now operation given room.cache).cache caller .answered
        (.answered caller room.now operation (.object given) (.answer a)) := by
  rw [enter]
  split
  next hb =>
    cases hb.symm.trans h
    rfl
  next hb => cases hb.symm.trans h

theorem exists_enter_of_pending {script : Script}
    (h : (receive room.now operation given room.cache).result = .pending request script) (caller : Nat) :
    ∃ w : Waiting, w.request = request ∧ w.script = script ∧ w.call = (operation, .object given) ∧
      room.enter caller operation (.object given) =
        room.happen (receive room.now operation given room.cache).cache caller (.waiting w)
          (.began caller room.now w) := by
  rw [enter]
  split
  next hb => cases hb.symm.trans h
  next hb =>
    cases hb.symm.trans h
    exact ⟨_, rfl, rfl, rfl, rfl⟩

theorem step_enter {caller : Nat} (fresh : room.stage caller = .outside) (operation arguments : Value) :
    room.Step (room.enter caller operation arguments) := by
  cases arguments with
  | object given =>
    rcases receive_cases room.now operation given room.cache with
      ⟨a, huncached, hnone, hresult, hcache⟩ | ⟨r, e, hcall, hentry, hlive, hresult, hcache⟩ |
      ⟨r, s, hcall, hscript, hmissed, hresult, hcache⟩
    · rw [enter_of_answered hresult, hcache]
      exact .refused fresh hnone fun b hb => by cases hb; exact huncached
    · rw [enter_of_answered hresult, hcache]
      exact .hit fresh hcall hentry hlive
    · obtain ⟨w, rfl, rfl, -, henter⟩ := exists_enter_of_pending hresult caller
      rw [henter, hcache]
      exact .began w fresh hmissed
  | _ => exact .refused fresh rfl nofun

theorem step_move (room : Room τ) (m : Move τ) : room.Step (room.move m) := by
  cases m with
  | enter caller operation arguments =>
    rw [move]
    split
    next fresh => exact step_enter fresh operation arguments
    next => exact .stays
  | leave caller outcome =>
    rw [move]
    split
    next waits => exact .ended waits outcome
    next => exact .stays
  | tick now => exact .tick now
  | clear => exact .clear

/-- What holds of an empty room and is kept by every step holds after any moves. -/
theorem run_induction {P : Room τ → Prop} {lifetime start : τ}
    (hstart : P { cache := { lifetime }, now := start })
    (hstep : ∀ {room room' : Room τ}, P room → room.Step room' → P room') (moves : List (Move τ)) :
    P (run lifetime start moves) := by
  induction moves using List.reverseRecOn with
  | nil => exact hstart
  | append_singleton moves m ih =>
    rw [run, List.foldl_concat, ← run]
    exact hstep ih (step_move _ m)

end Room

end Moves

end JuliaLookup.Desk
