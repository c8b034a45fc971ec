import JuliaLookup.Proofs.Desk.Visits
import JuliaLookup.Proofs.Request.Key

/-!
# A cache that cannot be told

A desk with a cache and a desk without one give the same replies, as long as what a script comes to depends
on the script alone. The invariant is that every entry `Remembers` a run: it stands under the key of a
request, and running the script of that request gives its text. Since a key belongs to one request, what a
look-up finds is what a run would give.
-/

namespace JuliaLookup.Desk

variable {τ : Type} {runner : Runner} {c : Cache τ}

/-- Every entry holds the result of a request with its key. -/
def Remembers (runner : Runner) (c : Cache τ) : Prop :=
  ∀ e ∈ c.entries, ∃ request given script, Request.Reads request given ∧ request.key = e.key ∧
    request.script = .ok script ∧ (runner script).outcome = .done e.value

theorem remembers_empty (lifetime : τ) : Remembers runner { lifetime : Cache τ } := by
  intro e he
  cases he

theorem remembers_clear (c : Cache τ) : Remembers runner c.clear := by
  intro e he
  cases he

/-- A finished run is worth remembering. -/
theorem Remembers.finish (h : Remembers runner c) {request : Request} {given : Entries}
    {script : Script} (hreads : request.Reads given) (hscript : request.script = .ok script)
    (later : τ) : Remembers runner (finish later request (runner script).outcome c).cache := by
  rcases finish_cache later request (runner script).outcome c with ⟨text, hdone, hcache⟩ | ⟨-, hcache⟩
  · rw [hcache]
    intro e he
    rcases Cache.mem_set he with rfl | he
    · exact ⟨request, given, script, hreads, rfl, hscript, hdone⟩
    · exact h e he
  · rw [hcache]
    exact h

/-- An entry under the key of a request holds what the request comes to. -/
theorem Remembers.outcome_eq (h : Remembers runner c) {request : Request} {given : Entries}
    {e : Cache.Entry τ} (hreads : request.Reads given) (hentry : c.entry? request.key = some e) :
    ∃ script, request.script = .ok script ∧ (runner script).outcome = .done e.value := by
  obtain ⟨hmem, hkey⟩ := Cache.mem_of_entry?_eq_some hentry
  obtain ⟨stored, given', script, hstored, hkey', hscript, hdone⟩ := h e hmem
  have hsame : stored = request := hstored.eq_of_key hreads (hkey'.trans hkey)
  exact ⟨script, hsame ▸ hscript, hdone⟩

section Ages

variable [Sub τ] [LT τ] [DecidableRel (α := τ) (· < ·)]

theorem Remembers.get (h : Remembers runner c) (now : τ) (key : Text) :
    Remembers runner (c.get now key).2 :=
  fun e he => h e (Cache.mem_of_mem_get he)

/-- What a desk does at one visit, beside a desk without a cache that serves the same visit: it gives the
same reply, runs the same script or none, and goes on remembering. -/
structure Agrees (runner : Runner) (turn : Turn τ (Option Reply))
    (plain : Option Reply × Option Script) : Prop where
  reply_eq : turn.reply.map Reply.fresh = plain.1
  script_eq : turn.script? = none ∨ turn.script? = plain.2
  remembers : Remembers runner turn.cache

/-- A call takes one of its courses, and on each a desk without a cache says the same. -/
theorem agrees_call (h : Remembers runner c) {now later : τ} {operation : Value} {given : Entries}
    {turn : Turn τ Reply} (hcourse : Course runner now later operation given c turn) :
    turn.reply.fresh = (direct runner operation (.object given)).1 ∧
      (turn.script? = none ∨ turn.script? = (direct runner operation (.object given)).2) ∧
      Remembers runner turn.cache := by
  cases hcourse with
  | refused hcall =>
    rw [direct_of_refused hcall]
    exact ⟨rfl, .inl rfl, h⟩
  | @hit request e hcall hentry hlive =>
    obtain ⟨-, hreads⟩ := Request.ofCall_eq_ok_iff.mp hcall
    obtain ⟨script, hscript, hdone⟩ := h.outcome_eq hreads hentry
    rw [direct_of_written hcall hscript, hdone]
    exact ⟨rfl, .inl rfl, h⟩
  | unwritten hcall hmiss hscript =>
    rw [direct_of_unwritten hcall hscript]
    exact ⟨rfl, .inl rfl, h.get now _⟩
  | ran hcall hmiss hscript =>
    obtain ⟨-, hreads⟩ := Request.ofCall_eq_ok_iff.mp hcall
    rw [direct_of_written hcall hscript]
    exact ⟨fresh_replyTo _, .inr rfl, (h.get now _).finish hreads hscript later⟩

theorem agrees_turn (h : Remembers runner c) (visit : Visit τ) :
    Agrees runner (visit.turn runner c) (visit.direct runner) := by
  cases visit with
  | clear => exact ⟨rfl, .inl rfl, remembers_clear c⟩
  | call now later operation arguments =>
    cases arguments with
    | object given =>
      obtain ⟨hreply, hscript, hkeeps⟩ :=
        agrees_call h (course_call runner now later operation given c)
      exact ⟨congrArg some hreply, hscript, hkeeps⟩
    -- what has no names is turned away with or without a cache
    | null => exact ⟨rfl, .inl rfl, h⟩
    | bool b => exact ⟨rfl, .inl rfl, h⟩
    | number n => exact ⟨rfl, .inl rfl, h⟩
    | str t => exact ⟨rfl, .inl rfl, h⟩
    | list items => exact ⟨rfl, .inl rfl, h⟩

theorem agrees_turns (h : Remembers runner c) (visits : List (Visit τ)) :
    (turns (visits.map fun v => (runner, v)) c).map (fun t => t.reply.map Reply.fresh) =
        visits.map (fun v => (v.direct runner).1) ∧
      ((turns (visits.map fun v => (runner, v)) c).filterMap Turn.script?).Sublist
        (visits.filterMap fun v => (v.direct runner).2) := by
  induction visits generalizing c with
  | nil => exact ⟨rfl, List.Sublist.refl []⟩
  | cons visit rest ih =>
    obtain ⟨hreply, hscript, hkeeps⟩ := agrees_turn h visit
    obtain ⟨hreplies, hscripts⟩ := ih hkeeps
    constructor
    · simp only [List.map_cons, turns, hreply, hreplies]
    · simp only [List.map_cons, turns, List.filterMap_cons]
      rcases hscript with hnone | hsame
      · rw [hnone]
        dsimp only
        split
        · exact hscripts
        · exact hscripts.cons _
      · rw [hsame]
        split
        · exact hscripts
        · exact hscripts.cons_cons _

/-- A cache changes no reply. Whatever visits come to a desk that starts with an empty cache, whatever the
clock shows and however long entries live, callers get what they would get without a cache, and the
scripts that are run are some of those that would be run without it, in their order. -/
theorem turns_transparent (runner : Runner) (lifetime : τ) (visits : List (Visit τ)) :
    (turns (visits.map fun v => (runner, v)) { lifetime }).map (fun t => t.reply.map Reply.fresh) =
        visits.map (fun v => (v.direct runner).1) ∧
      ((turns (visits.map fun v => (runner, v)) { lifetime }).filterMap Turn.script?).Sublist
        (visits.filterMap fun v => (v.direct runner).2) :=
  agrees_turns (remembers_empty lifetime) visits

end Ages

end JuliaLookup.Desk
