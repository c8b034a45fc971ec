import JuliaLookup.Proofs.Desk.Records
import Mathlib.Algebra.Order.Group.Int

/-!
# What a call leaves alone

A call can do something to one entry only, the one under the key of its request: the look-up removes it if it
is too old, and a run that comes to a text puts that text in its place. Everything else in the cache is left as
it is, and so is the entry itself where the call is refused or answered from it. Main statement:
`answer_leaves_others`.
-/

namespace JuliaLookup.Desk

variable {τ : Type} [Sub τ] [LT τ] [DecidableRel (α := τ) (· < ·)]
  {runner : Runner} {now later : τ} {operation : Value} {given : Entries} {c : Cache τ}
  {turn : Turn τ Reply} {request : Request} {script : Script} {activity : Activity Text}

/-! ### Courses of a call -/

namespace Course

theorem cache_of_refused {refusal : Refusal} (h : Course runner now later operation given c turn)
    (hcall : Request.ofCall operation given = .error refusal) : turn.cache = c := by
  cases h with
  | refused => rfl
  | hit call => cases call.symm.trans hcall
  | unwritten call => cases call.symm.trans hcall
  | ran call => cases call.symm.trans hcall

theorem cache_of_cached {a : Answer} (h : Course runner now later operation given c turn)
    (hreply : turn.reply = .answer a) (hcached : a.cached = true) : turn.cache = c := by
  cases h with
  | refused => rfl
  | hit => rfl
  | unwritten =>
    cases hreply
    cases hcached
  | ran =>
    rw [cached_replyTo hreply] at hcached
    cases hcached

/-- What is run is run because the look-up found nothing, and is finished as its outcome says. -/
theorem of_run (h : Course runner now later operation given c turn)
    (hcall : Request.ofCall operation given = .ok request) (hrun : turn.run = some (script, activity)) :
    (c.find now request.key).value? = none ∧ turn.reply = replyTo activity.outcome ∧
      turn.cache = (finish later request activity.outcome (c.get now request.key).2).cache := by
  cases h with
  | refused => cases hrun
  | hit => cases hrun
  | unwritten => cases hrun
  | ran call missed written =>
    cases call.symm.trans hcall
    cases hrun
    exact ⟨missed, rfl, rfl⟩

/-- A run that comes to no text leaves what the look-up has left. -/
theorem cache_of_failed (h : Course runner now later operation given c turn)
    (hcall : Request.ofCall operation given = .ok request) (hrun : turn.run = some (script, activity))
    (hfailed : ∀ text, activity.outcome ≠ .done text) : turn.cache = (c.get now request.key).2 := by
  obtain ⟨-, -, hcache⟩ := h.of_run hcall hrun
  rcases finish_cache later request activity.outcome (c.get now request.key).2 with
    ⟨text, hdone, -⟩ | ⟨-, hkept⟩
  · exact absurd hdone (hfailed text)
  · exact hcache.trans hkept

theorem of_done {text : Text} (h : Course runner now later operation given c turn)
    (hcall : Request.ofCall operation given = .ok request) (hrun : turn.run = some (script, activity))
    (hdone : activity.outcome = .done text) : turn.reply = .answer { text } ∧
      turn.cache = (c.get now request.key).2.set later request.key text := by
  obtain ⟨-, hreply, hcache⟩ := h.of_run hcall hrun
  rw [hdone] at hreply hcache
  exact ⟨hreply, hcache⟩

/-- Without the entry under its key, the cache is the same before and after a call. -/
theorem erase_cache (h : Course runner now later operation given c turn)
    (hcall : Request.ofCall operation given = .ok request) :
    turn.cache.erase request.key = c.erase request.key := by
  cases h with
  | refused => rfl
  | hit => rfl
  | unwritten call =>
    cases call.symm.trans hcall
    exact c.erase_get now request.key
  | @ran _ script call =>
    cases call.symm.trans hcall
    rcases finish_cache later request (runner script).outcome (c.get now request.key).2 with
      ⟨text, -, hcache⟩ | ⟨-, hcache⟩
    · rw [hcache, Cache.erase_set, Cache.erase_get]
    · rw [hcache, Cache.erase_get]

end Course

/-! ### A call for a request -/

/-- A call touches at most the entry under its own key, whatever uses of the cache have come before it. If it
makes no request, the cache stays as it is. Otherwise every entry under another key stays, with its text and its
reading of the clock, and the call is answered from the cache or run. An answer from the cache leaves all of it
as it is. A run that comes to no text leaves all of it but an entry under the key of the call that was too old.
A run that comes to a text leaves one entry there, with this text and the reading at the end. -/
theorem answer_leaves_others (lifetime : τ) (uses : List (Cache.Use τ)) (runner : Runner) (now later : τ)
    (operation arguments : Value) :
    let c := Cache.after lifetime uses
    let turn := answer runner now later operation arguments c
    (requestOf? operation arguments = none → turn.cache = c) ∧
      ∀ request, requestOf? operation arguments = some request →
        turn.cache.entries.filter (·.key != request.key) = c.entries.filter (·.key != request.key) ∧
        ((∃ a, turn.reply = .answer a ∧ a.cached = true) ∨
          ∃ script activity, turn.run = some (script, activity)) ∧
        (∀ a, turn.reply = .answer a → a.cached = true → turn.cache = c) ∧
        (∀ script activity, turn.run = some (script, activity) → (∀ text, activity.outcome ≠ .done text) →
          (c.entry? request.key = none ∧ turn.cache = c) ∨
            ∃ e, c.entry? request.key = some e ∧ lifetime < now - e.storedAt ∧
              turn.cache = c.erase request.key) ∧
        ∀ script activity text, turn.run = some (script, activity) → activity.outcome = .done text →
          turn.reply = .answer { text } ∧
          turn.cache.entries.filter (·.key == request.key) =
            [{ key := request.key, value := text, storedAt := later }] := by
  intro c turn
  have hlifetime : c.lifetime = lifetime := Cache.lifetime_after lifetime uses
  have hkeys : c.KeysDistinct := Cache.keysDistinct_after lifetime uses
  cases arguments with
  | object given =>
    have hcourse : Course runner now later operation given c turn := course_call runner now later operation given c
    refine ⟨fun hnone => ?_, fun request hrequest => ?_⟩
    · cases hcall : Request.ofCall operation given with
      | error refusal => exact hcourse.cache_of_refused hcall
      | ok request => cases hnone.symm.trans (requestOf?_object_eq_some_iff.mpr hcall)
    · have hcall := requestOf?_object_eq_some_iff.mp hrequest
      obtain ⟨hcached, hidle⟩ := call_cached_iff runner now later c hcall
      refine ⟨congrArg Cache.entries (hcourse.erase_cache hcall), ?_, fun a => hcourse.cache_of_cached, ?_, ?_⟩
      · cases hrun : turn.run with
        | none => exact .inl (hcached.mpr (hidle.mp hrun))
        | some ran => exact .inr ⟨ran.1, ran.2, rfl⟩
      · intro script activity hrun hfailed
        rw [hcourse.cache_of_failed hcall hrun hfailed, ← hlifetime]
        exact Cache.get_of_missed (hcourse.of_run hcall hrun).1
      · intro script activity text hrun hdone
        obtain ⟨hreply, hset⟩ := hcourse.of_done hcall hrun hdone
        have hdistinct : turn.cache.KeysDistinct := by
          rw [hset]
          exact (hkeys.apply (.get now request.key)).set later request.key text
        refine ⟨hreply, Cache.filter_key_of_nodup hdistinct ?_⟩
        rw [hset]
        exact Cache.entry?_set_self _ later request.key text
  | _ => exact ⟨fun _ => rfl, nofun⟩

/-- A call that is cancelled removes the old text of its own request, and leaves the other entry. -/
theorem answer_leaves_others_of_cancelled :
    let uses : List (Cache.Use ℤ) :=
      [.set 0 "get-source:Base.sort" (.str "old"), .set 15 "k" (.str "new")]
    let cancelled : Runner := fun _ => { outcome := .cancelled }
    let turn := answer cancelled 20 21 "get-source" (.object [("path", "Base.sort")]) (Cache.after 10 uses)
    turn.run ≠ none ∧ turn.cache.entry? "get-source:Base.sort" = none ∧
      turn.cache.entries.filter (·.key != ("get-source:Base.sort" : Text)) =
        [{ key := "k", value := "new", storedAt := 15 }] := by
  intro uses cancelled turn
  let request : Request := { tool := .getSource, path := "Base.sort" }
  have hkey : request.key = "get-source:Base.sort" := by
    rw [Request.key, Entries.sorted, List.mergeSort_nil]
    decide
  have hrequest : requestOf? "get-source" (.object [("path", "Base.sort")]) = some request := rfl
  have hmissed : ((Cache.after 10 uses).find 20 request.key).value? = none := by
    rw [hkey]
    decide
  obtain ⟨script, hscript⟩ : ∃ script, request.script = .ok script := ⟨_, rfl⟩
  have hserve := serve_eq_call cancelled 20 21 (Cache.after 10 uses)
    (requestOf?_object_eq_some_iff.mp hrequest)
  rw [hmissed, serve, hscript] at hserve
  have hrun : turn.run = some (script, cancelled script) := (Prod.mk.inj hserve).2.symm
  obtain ⟨hothers, -, -, hfailed, -⟩ := (answer_leaves_others 10 uses cancelled 20 21 "get-source"
    (.object [("path", "Base.sort")])).2 request hrequest
  refine ⟨?_, ?_, ?_⟩
  · rw [hrun]
    exact Option.some_ne_none _
  · have hnone : ∀ text, (cancelled script).outcome ≠ .done text := by
      intro text hdone
      cases hdone
    rcases hfailed script _ hrun hnone with ⟨hnone, -⟩ | ⟨e, -, -, hcache⟩
    · rw [hkey] at hnone
      exact absurd hnone (by decide)
    · rw [hcache, hkey, Cache.entry?_erase_self]
  · rw [hkey] at hothers
    exact hothers.trans rfl

end JuliaLookup.Desk
