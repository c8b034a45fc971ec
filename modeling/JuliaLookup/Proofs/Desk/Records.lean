import JuliaLookup.Proofs.Cache.Uses
import JuliaLookup.Proofs.Desk.Visits
import JuliaLookup.Proofs.Request.Key
import JuliaLookup.Proofs.Script.Spawnable

/-!
# Records of visits

What a desk does at each visit is put on record, and the record tells which uses the visit makes of the
cache. So the cache after any visits is what the uses on record make of an empty one. Under the key of a
request only runs of that request store anything, and what a call gets depends on the cache only through
what the look-up of its key finds.
-/

namespace JuliaLookup.Desk

variable {τ : Type}

/-- The request that a call makes, if it makes one. -/
def requestOf? (operation : Value) : Value → Option Request
  | .object given => (Request.ofCall operation given).toOption
  | _ => none

/-- The result of work, if it has one. -/
def result? : Outcome Text → Option Text
  | .done text => some text
  | _ => none

/-- The text that a turn's run came to, if there was a run and it came to one. -/
def Turn.text? {ρ : Type} (t : Turn τ ρ) : Option Text :=
  t.run.bind fun (_, activity) => result? activity.outcome

/-- A visit, and what came of it. -/
structure Record (τ : Type) where
  visit : Visit τ
  turn : Turn τ (Option Reply)

/-- The readings of the clock at a visit. -/
def Visit.readings : Visit τ → List τ
  | call now later _ _ => [now, later]
  | clear => []

namespace Record

/-- A request was run and came to a text, which was stored at `s`. -/
def Ran (request : Request) (text : Text) (s : τ) (x : Record τ) : Prop :=
  ∃ now operation arguments, x.visit = .call now s operation arguments ∧
    requestOf? operation arguments = some request ∧ x.turn.text? = some text

/-- The uses that a visit makes of the cache. -/
def uses (x : Record τ) : List (Cache.Use τ) :=
  match x.visit with
  | .clear => [.clear]
  | .call now later operation arguments =>
    match requestOf? operation arguments with
    | none => []
    | some request =>
      .get now request.key :: (x.turn.text?.map fun text => .set later request.key (.str text)).toList

end Record

variable {request : Request} {given : Entries} {text : Text} {s now : τ} {x : Record τ}

/-! ### One record -/

theorem Record.ran_call_iff {later : τ} {operation arguments : Value} {turn : Turn τ (Option Reply)} :
    Record.Ran request text s { visit := .call now later operation arguments, turn } ↔
      later = s ∧ requestOf? operation arguments = some request ∧ turn.text? = some text := by
  constructor
  · rintro ⟨now', operation', arguments', hvisit, hrequest, htext⟩
    cases hvisit
    exact ⟨rfl, hrequest, htext⟩
  · rintro ⟨rfl, hrequest, htext⟩
    exact ⟨now, operation, arguments, rfl, hrequest, htext⟩

theorem Record.not_ran_clear {turn : Turn τ (Option Reply)} :
    ¬ Record.Ran request text s { visit := .clear, turn } := by
  rintro ⟨now, operation, arguments, hvisit, -, -⟩
  cases hvisit

theorem Record.Ran.mem_readings (h : x.Ran request text s) : s ∈ x.visit.readings := by
  obtain ⟨now, operation, arguments, hvisit, -, -⟩ := h
  rw [hvisit]
  exact List.mem_cons_of_mem now List.mem_cons_self

theorem requestOf?_object_eq_some_iff {operation : Value} :
    requestOf? operation (.object given) = some request ↔
      Request.ofCall operation given = .ok request := by
  rw [requestOf?]
  cases Request.ofCall operation given <;> simp [Except.toOption]

theorem exists_reads_of_requestOf? {operation arguments : Value}
    (h : requestOf? operation arguments = some request) : ∃ given, request.Reads given := by
  cases arguments with
  | object given =>
    have hcall := requestOf?_object_eq_some_iff.mp h
    exact ⟨given, (Request.ofCall_eq_ok_iff.mp hcall).2⟩
  | _ => cases h

theorem key_eq_iff_of_requestOf? {operation arguments : Value} {r : Request}
    (h : requestOf? operation arguments = some r) (hreads : request.Reads given) :
    r.key = request.key ↔ r = request := by
  obtain ⟨given', hreads'⟩ := exists_reads_of_requestOf? h
  constructor
  · exact hreads'.eq_of_key hreads
  · rintro rfl
    rfl

/-- Only a run of the request itself stores a text under its key. -/
theorem Record.since_uses_iff (hreads : request.Reads given) :
    Since (·.Replaces request.key) x.uses (.set s request.key (.str text)) ↔ x.Ran request text s := by
  obtain ⟨visit, turn⟩ := x
  cases visit with
  | clear => simp [uses, since_singleton, not_ran_clear]
  | call now later operation arguments =>
    rw [ran_call_iff]
    cases hrequest : requestOf? operation arguments with
    | none => simp [uses, hrequest, not_since_nil]
    | some r =>
      have hkey := key_eq_iff_of_requestOf? hrequest hreads
      cases htext : turn.text? with
      | none => simp [uses, hrequest, htext, since_singleton]
      | some t =>
        simp only [uses, hrequest, htext, Option.map_some, Option.toList_some, since_cons, not_since_nil,
          Cache.Use.set.injEq, Value.str.injEq, Option.some.injEq, ← hkey]
        simp [eq_comm]

theorem Record.exists_replaces_iff (hreads : request.Reads given) :
    (∃ u ∈ x.uses, u.Replaces request.key) ↔ x.visit = .clear ∨ ∃ t r, x.Ran request t r := by
  obtain ⟨visit, turn⟩ := x
  cases visit with
  | clear => simp [uses, Cache.Use.Replaces]
  | call now later operation arguments =>
    simp only [ran_call_iff]
    cases hrequest : requestOf? operation arguments with
    | none => simp [uses, hrequest]
    | some r =>
      have hkey := key_eq_iff_of_requestOf? hrequest hreads
      cases htext : turn.text? with
      | none => simp [uses, hrequest, htext, Cache.Use.Replaces]
      | some t =>
        simp [uses, hrequest, htext, hkey, Cache.Use.Replaces]

/-- The uses of a desk read the clock no later than its visits. -/
theorem mem_readings_of_get_mem_uses {t : τ} {key : Text} (h : .get t key ∈ x.uses) :
    t ∈ x.visit.readings := by
  obtain ⟨visit, turn⟩ := x
  cases visit with
  | clear => simp [Record.uses] at h
  | call now later operation arguments =>
    cases hrequest : requestOf? operation arguments with
    | none => simp [Record.uses, hrequest] at h
    | some r =>
      cases htext : turn.text? with
      | none => simp_all [Record.uses, Visit.readings]
      | some text => simp_all [Record.uses, Visit.readings]

/-! ### One call -/

/-- What a caller gets and what is run, when a look-up has found a text or nothing. -/
def serve (runner : Runner) (request : Request) : Option Text → Reply × Option (Script × Activity Text)
  | some text => (.answer { text, cached := true }, none)
  | none =>
    match request.script with
    | .ok script => (replyTo (runner script).outcome, some (script, runner script))
    | .error refusal => (.answer (failureAnswer refusal.failure), none)

/-- What a run came to is not from the cache. -/
theorem cached_replyTo {outcome : Outcome Text} {a : Answer} (h : replyTo outcome = .answer a) :
    a.cached = false := by
  cases outcome <;> cases h <;> rfl

section Turns

variable [Sub τ] [LT τ] [DecidableRel (α := τ) (· < ·)]
  {runner : Runner} {lifetime later : τ} {operation : Value} {c c' : Cache τ}

theorem cache_finish (later : τ) (request : Request) (outcome : Outcome Text) (c : Cache τ) :
    (finish later request outcome c).cache =
      ((result? outcome).map fun text => .set later request.key (.str text)).toList.foldl
        Cache.Use.apply c := by
  cases outcome <;> rfl

/-- A call for a request is served by what the look-up of its key finds. -/
theorem serve_eq_call (runner : Runner) (now later : τ) (c : Cache τ)
    (hcall : Request.ofCall operation given = .ok request) :
    serve runner request (c.find now request.key).value? =
      ((call runner now later operation given c).reply,
        (call runner now later operation given c).run) := by
  have hcourse := course_call runner now later operation given c
  generalize call runner now later operation given c = turn at hcourse ⊢
  cases hcourse with
  | refused hrefused => cases hrefused.symm.trans hcall
  | @hit _ e hr hentry hlive =>
    cases hr.symm.trans hcall
    have hfound : (c.find now request.key).value? = some e.value :=
      Cache.value?_find_eq_some_iff.mpr ⟨e, hentry, rfl, by simpa [Cache.isExpired] using hlive⟩
    rw [hfound, serve]
  | unwritten hr hmissed hscript =>
    cases hr.symm.trans hcall
    rw [hmissed, serve, hscript]
  | ran hr hmissed hscript =>
    cases hr.symm.trans hcall
    rw [hmissed, serve, hscript]

theorem call_of_found (runner : Runner) (now later : τ)
    (hcall : Request.ofCall operation given = .ok request)
    (hfound : (c.find now request.key).value? = some text) :
    (call runner now later operation given c).reply = .answer { text, cached := true } ∧
      (call runner now later operation given c).run = none := by
  have hserve := serve_eq_call runner now later c hcall
  rw [hfound] at hserve
  exact Prod.mk.inj hserve.symm

theorem call_of_missed (runner : Runner) (now later : τ)
    (hcall : Request.ofCall operation given = .ok request)
    (hmissed : (c.find now request.key).value? = none) :
    (∀ a, (call runner now later operation given c).reply = .answer a → a.cached = false) ∧
      (call runner now later operation given c).run ≠ none := by
  obtain ⟨-, hreads⟩ := Request.ofCall_eq_ok_iff.mp hcall
  obtain ⟨script, hscript⟩ := hreads.exists_script
  have hserve := serve_eq_call runner now later c hcall
  rw [hmissed, serve, hscript] at hserve
  obtain ⟨hreply, hrun⟩ := Prod.mk.inj hserve
  rw [← hreply, ← hrun]
  exact ⟨fun a => cached_replyTo, nofun⟩

/-- Only what is found is answered from the cache, and only what is not found is run. -/
theorem call_cached_iff (runner : Runner) (now later : τ) (c : Cache τ)
    (hcall : Request.ofCall operation given = .ok request) :
    ((∃ a, (call runner now later operation given c).reply = .answer a ∧ a.cached = true) ↔
        ∃ text, (c.find now request.key).value? = some text) ∧
      ((call runner now later operation given c).run = none ↔
        ∃ text, (c.find now request.key).value? = some text) := by
  cases hfind : (c.find now request.key).value? with
  | some text =>
    obtain ⟨hreply, hrun⟩ := call_of_found runner now later hcall hfind
    exact ⟨⟨fun _ => ⟨text, rfl⟩, fun _ => ⟨_, hreply, rfl⟩⟩, ⟨fun _ => ⟨text, rfl⟩, fun _ => hrun⟩⟩
  | none =>
    obtain ⟨hfresh, hrun⟩ := call_of_missed runner now later hcall hfind
    refine ⟨⟨?_, nofun⟩, ⟨fun hnone => absurd hnone hrun, nofun⟩⟩
    rintro ⟨a, hreply, hcached⟩
    rw [hfresh a hreply] at hcached
    cases hcached

/-- What a visit does to the cache is on record. -/
theorem cache_turn (visit : Visit τ) (runner : Runner) (c : Cache τ) :
    (visit.turn runner c).cache =
      (Record.uses { visit, turn := visit.turn runner c }).foldl Cache.Use.apply c := by
  cases visit with
  | clear => rfl
  | call now later operation arguments =>
    cases arguments with
    | object given =>
      have hcourse := course_call runner now later operation given c
      simp only [Visit.turn, answer, Record.uses]
      generalize call runner now later operation given c = turn at hcourse ⊢
      cases hcourse with
      | refused hrefused =>
        rw [requestOf?, hrefused]
        rfl
      | hit hcall hentry hlive =>
        rw [requestOf?, hcall]
        exact (Cache.get_of_live hentry hlive).symm
      | unwritten hcall =>
        rw [requestOf?, hcall]
        rfl
      | ran hcall =>
        rw [requestOf?, hcall]
        exact cache_finish later _ _ _
    | _ => rfl

/-- Calls for a request are served alike where look-ups of its key find the same. -/
theorem Record.ran_turn_iff (visit : Visit τ) (hfind : ∀ t ∈ visit.readings,
      (c.find t request.key).value? = (c'.find t request.key).value?) :
    Record.Ran request text s { visit, turn := visit.turn runner c } ↔
      Record.Ran request text s { visit, turn := visit.turn runner c' } := by
  cases visit with
  | clear => simp [not_ran_clear]
  | call now later operation arguments =>
    rw [ran_call_iff, ran_call_iff]
    refine and_congr_right fun _ => and_congr_right fun hrequest => ?_
    cases arguments with
    | object given =>
      have hcall := requestOf?_object_eq_some_iff.mp hrequest
      have hserve := serve_eq_call runner now later c hcall
      rw [hfind now List.mem_cons_self, serve_eq_call runner now later c' hcall] at hserve
      have hrun := congrArg Prod.snd hserve
      simp only [Visit.turn, answer, Turn.text?] at hrun ⊢
      rw [hrun]
    | _ => cases hrequest

/-! ### Visits one after another -/

/-- The cache that visits leave behind, if it was empty before them. -/
def cacheAfter (lifetime : τ) (visits : List (Runner × Visit τ)) : Cache τ :=
  visits.foldl (fun c v => (v.2.turn v.1 c).cache) { lifetime }

/-- The records of visits that begin with an empty cache. -/
def records (lifetime : τ) (visits : List (Runner × Visit τ)) : List (Record τ) :=
  List.zipWith (fun v turn => { visit := v.2, turn }) visits (turns visits { lifetime })

theorem length_turns (visits : List (Runner × Visit τ)) (c : Cache τ) :
    (turns visits c).length = visits.length := by
  induction visits generalizing c with
  | nil => rfl
  | cons v rest ih => simp [turns, ih]

theorem turns_concat (visits : List (Runner × Visit τ)) (runner : Runner) (visit : Visit τ) (c : Cache τ) :
    turns (visits ++ [(runner, visit)]) c =
      turns visits c ++ [visit.turn runner (visits.foldl (fun c v => (v.2.turn v.1 c).cache) c)] := by
  induction visits generalizing c with
  | nil => rfl
  | cons v rest ih => simp [turns, ih]

theorem records_concat (lifetime : τ) (visits : List (Runner × Visit τ)) (runner : Runner)
    (visit : Visit τ) : records lifetime (visits ++ [(runner, visit)]) =
      records lifetime visits ++ [{ visit, turn := visit.turn runner (cacheAfter lifetime visits) }] := by
  rw [records, turns_concat, List.zipWith_append (length_turns visits _).symm]
  rfl

theorem readings_records (lifetime : τ) (visits : List (Runner × Visit τ)) :
    (records lifetime visits).flatMap (fun x => x.visit.readings) =
      visits.flatMap fun v => v.2.readings := by
  induction visits using List.reverseRecOn with
  | nil => rfl
  | append_singleton visits v ih =>
    rw [records_concat, List.flatMap_append, List.flatMap_append, ih]
    rfl

theorem cacheAfter_eq_after (lifetime : τ) (visits : List (Runner × Visit τ)) :
    cacheAfter lifetime visits = Cache.after lifetime ((records lifetime visits).flatMap Record.uses) := by
  induction visits using List.reverseRecOn with
  | nil => rfl
  | append_singleton visits v ih =>
    rw [records_concat, List.flatMap_append, Cache.after_append, ← ih, List.flatMap_singleton, ← cache_turn,
      cacheAfter, List.foldl_concat, ← cacheAfter]

end Turns

end JuliaLookup.Desk
