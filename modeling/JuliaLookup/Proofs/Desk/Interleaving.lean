import JuliaLookup.Proofs.Desk.Room

/-!
# Interleaved calls do not mix up results

However the calls of any number of callers interleave, every entry of the cache is the text of the call
that was the last to end with success under its key since everything was dropped, and every text that is
answered from the cache is what such a call with the very same request has got from its run. The invariant
is `Room.Sound`: the cache is what the uses in the history make of it, what has ended stays ended, and every
answer from the cache is backed by what had happened before it.
-/

namespace JuliaLookup.Desk

variable {τ : Type}

/-- Of the calls with a key that have ended with success since everything was dropped, the last is the one
of this caller, which got this text when the clock showed `s`. -/
def EndedLast (history : List (Happening τ)) (key : Text) (caller : Nat) (s : τ) (w : Waiting)
    (text : Text) : Prop :=
  w.request.key = key ∧ Since (fun h => h = .cleared ∨ h.Stores key) history
    (.ended caller s w (.done text) (.answer { text }))

/-- An answer from the cache is given to a request, and its text is what the last call with this request
got, not too long ago. -/
def Backed [Sub τ] [LT τ] (lifetime : τ) (earlier : List (Happening τ)) (a : Answer) (h : Happening τ) :
    Prop :=
  ∃ asker now operation given caller s w, h = .answered asker now operation (.object given) (.answer a) ∧
    Request.ofCall operation given = .ok w.request ∧
    EndedLast earlier w.request.key caller s w a.text ∧ ¬ lifetime < now - s

variable {h : Happening τ} {key : Text}

/-- Only the end of a call stores a text. -/
theorem Happening.eq_ended_of_set_mem_uses {s : τ} {v : Value} (hset : .set s key v ∈ h.uses) :
    ∃ caller w text reply, h = .ended caller s w (.done text) reply ∧ w.request.key = key ∧
      v = .str text := by
  cases h with
  | answered caller now operation arguments reply => simp [uses] at hset
  | began caller now w => simp [uses] at hset
  | ended caller now w outcome reply =>
    cases outcome with
    | done text =>
      obtain ⟨rfl, rfl, rfl⟩ := Cache.Use.set.inj (List.mem_singleton.mp hset)
      exact ⟨caller, w, text, reply, rfl, rfl, rfl⟩
    | _ => cases hset
  | cleared => simp [uses] at hset

theorem Happening.exists_replaces (hends : h = .cleared ∨ h.Stores key) :
    ∃ u ∈ h.uses, u.Replaces key := by
  rcases hends with rfl | hstores
  · exact ⟨.clear, List.mem_singleton_self _, trivial⟩
  · cases h with
    | ended caller now w outcome reply =>
      cases outcome with
      | done text => exact ⟨_, List.mem_singleton_self _, hstores, text, rfl⟩
      | _ => cases hstores
    | _ => cases hstores

section Moves

variable [Sub τ] [LT τ] [DecidableRel (α := τ) (· < ·)]

/-- What holds of a room whose desk began with an empty cache. -/
structure Room.Sound (lifetime : τ) (room : Room τ) : Prop where
  cache_eq : room.cache = Cache.after lifetime (room.history.flatMap Happening.uses)
  ended : ∀ {caller s w outcome reply}, .ended caller s w outcome reply ∈ room.history →
    room.stage caller = .ended s w outcome ∧ reply = replyTo outcome
  began : ∀ {caller w}, (room.stage caller).call? = some w → ∃ t, .began caller t w ∈ room.history
  backed : ∀ {earlier h a}, earlier ++ [h] <+: room.history → h.reply? = some (.answer a) →
    a.cached = true → Backed lifetime earlier a h

variable {lifetime : τ} {room room' : Room τ}

theorem Room.Sound.lifetime_eq (hs : room.Sound lifetime) : room.cache.lifetime = lifetime := by
  rw [hs.cache_eq, Cache.lifetime_after]

theorem Room.Sound.endedLast_of_entry? (hs : room.Sound lifetime) {e : Cache.Entry τ}
    (he : room.cache.entry? key = some e) :
    ∃ caller w, EndedLast room.history key caller e.storedAt w e.value := by
  rw [hs.cache_eq] at he
  obtain ⟨hkept, hkey⟩ := Cache.entry?_after_eq_some_iff.mp he
  -- what stands under the key was stored by one happening, and only the end of a call stores anything
  obtain ⟨h, hsince, hset⟩ := since_flatMap.mp hkept
  obtain ⟨caller, w, text, reply, rfl, hrequest, hvalue⟩ :=
    Happening.eq_ended_of_set_mem_uses hset.mem
  obtain rfl := Value.str.inj hvalue
  obtain ⟨-, rfl⟩ := hs.ended hsince.mem
  refine ⟨caller, w, hrequest, hsince.mono fun h hends => ?_⟩
  obtain ⟨u, hu, hreplaces⟩ := Happening.exists_replaces hends
  exact ⟨u, hu, .inl hreplaces⟩

/-! ### What a step preserves -/

/-- One more happening, with what it makes of the cache and of how far callers have come. -/
theorem Room.Sound.append (hs : room.Sound lifetime) {cache : Cache τ} {stage : Nat → Stage τ}
    (hcache : cache = h.uses.foldl Cache.Use.apply room.cache)
    (hstays : ∀ {caller s w outcome}, room.stage caller = .ended s w outcome →
      stage caller = .ended s w outcome)
    (hended : ∀ {caller s w outcome reply}, h = .ended caller s w outcome reply →
      stage caller = .ended s w outcome ∧ reply = replyTo outcome)
    (hbegan : ∀ {caller w}, (stage caller).call? = some w →
      (room.stage caller).call? = some w ∨ ∃ t, h = .began caller t w)
    (hbacked : ∀ {a}, h.reply? = some (.answer a) → a.cached = true → Backed lifetime room.history a h) :
    Room.Sound lifetime { room with cache, stage, history := room.history ++ [h] } := by
  refine ⟨?_, ?_, ?_, ?_⟩
  · rw [List.flatMap_append, Cache.after_append, ← hs.cache_eq, List.flatMap_singleton]
    exact hcache
  · intro caller s w outcome reply hmem
    rcases List.mem_append.mp hmem with hold | hnew
    · obtain ⟨hstage, hreply⟩ := hs.ended hold
      exact ⟨hstays hstage, hreply⟩
    · exact hended (List.mem_singleton.mp hnew).symm
  · intro caller w hcall
    rcases hbegan hcall with hold | ⟨t, rfl⟩
    · obtain ⟨t, ht⟩ := hs.began hold
      exact ⟨t, List.mem_append_left _ ht⟩
    · exact ⟨t, List.mem_append_right _ (List.mem_singleton_self _)⟩
  · intro earlier h' a hprefix
    rcases List.prefix_concat_iff.mp hprefix with hlast | hbefore
    · obtain ⟨rfl, hh⟩ := List.append_inj' hlast rfl
      obtain rfl := List.singleton_injective hh
      exact hbacked
    · exact hs.backed hbefore

/-- The same where the happening concerns a caller whose call has not ended. -/
theorem Room.Sound.happen (hs : room.Sound lifetime) {cache : Cache τ} {caller : Nat} {stage : Stage τ}
    (hopen : room.stage caller = .outside ∨ ∃ w, room.stage caller = .waiting w)
    (hcache : cache = h.uses.foldl Cache.Use.apply room.cache)
    (hended : ∀ {other s w outcome reply}, h = .ended other s w outcome reply →
      other = caller ∧ stage = .ended s w outcome ∧ reply = replyTo outcome)
    (hbegan : ∀ {w}, stage.call? = some w →
      (room.stage caller).call? = some w ∨ ∃ t, h = .began caller t w)
    (hbacked : ∀ {a}, h.reply? = some (.answer a) → a.cached = true → Backed lifetime room.history a h) :
    (room.happen cache caller stage h).Sound lifetime := by
  refine hs.append hcache ?_ ?_ ?_ hbacked
  · intro other s w outcome hstage
    have hne : other ≠ caller := by
      rintro rfl
      rcases hopen with hopen | ⟨w, hopen⟩
      · cases hopen.symm.trans hstage
      · cases hopen.symm.trans hstage
    exact (room.stage_happen_of_ne hne cache stage h).trans hstage
  · intro other s w outcome reply heq
    obtain ⟨rfl, rfl, hreply⟩ := hended heq
    exact ⟨room.stage_happen_self cache other _ h, hreply⟩
  · intro other w hcall
    by_cases hother : other = caller
    · subst hother
      rw [Function.update_self] at hcall
      exact hbegan hcall
    · rw [Function.update_of_ne hother] at hcall
      exact .inl hcall

theorem Room.Sound.step (hs : room.Sound lifetime) (hstep : room.Step room') : room'.Sound lifetime := by
  cases hstep with
  | stays => exact hs
  | tick now => exact ⟨hs.cache_eq, hs.ended, hs.began, hs.backed⟩
  | clear => exact hs.append rfl id nofun .inl nofun
  | @refused caller operation arguments reply fresh norequest uncached =>
    refine hs.happen (.inl fresh) ?_ nofun nofun ?_
    · simp [Happening.uses, norequest]
    · intro a hreply hcached
      rw [uncached a (Option.some.inj hreply)] at hcached
      cases hcached
  | @hit caller operation given request e fresh call_eq found live =>
    refine hs.happen (.inl fresh) ?_ nofun nofun ?_
    · rw [Happening.uses, requestOf?_object_eq_some_iff.mpr call_eq]
      exact (Cache.get_of_live found live).symm
    · rintro a hreply -
      obtain rfl := Reply.answer.inj (Option.some.inj hreply)
      obtain ⟨-, hreads⟩ := Request.ofCall_eq_ok_iff.mp call_eq
      obtain ⟨author, w, hlast⟩ := hs.endedLast_of_entry? found
      obtain ⟨-, hreads'⟩ := Request.ofCall_eq_ok_iff.mp w.call_eq
      -- the entry stands under the key of the request, and a key belongs to one request
      have hsame : w.request = request := hreads'.eq_of_key hreads hlast.1
      refine ⟨caller, room.now, operation, given, author, e.storedAt, w, rfl, hsame ▸ call_eq,
        hsame ▸ hlast, fun hlate => ?_⟩
      rw [← hs.lifetime_eq, ← Cache.isExpired_iff, live] at hlate
      cases hlate
  | @began caller w fresh =>
    refine hs.happen (.inl fresh) rfl nofun ?_ nofun
    intro w' hcall
    obtain rfl := Option.some.inj hcall
    exact .inr ⟨room.now, rfl⟩
  | @ended caller w waits outcome =>
    refine hs.happen (.inr ⟨w, waits⟩) ?_ ?_ ?_ ?_
    · exact cache_finish _ _ _ _
    · rintro other s w' outcome' reply heq
      cases heq
      exact ⟨rfl, rfl, finish_result _ _ _ _⟩
    · intro w' hcall
      rw [waits]
      exact .inl hcall
    · intro a hreply hcached
      have hresult : replyTo outcome = .answer a :=
        (finish_result _ _ _ _).symm.trans (Option.some.inj hreply)
      rw [cached_replyTo hresult] at hcached
      cases hcached

theorem Room.sound_run (lifetime start : τ) (moves : List (Move τ)) :
    (run lifetime start moves).Sound lifetime := by
  refine run_induction ⟨rfl, nofun, nofun, ?_⟩ (fun hs hstep => hs.step hstep) moves
  intro earlier h a hprefix
  simp at hprefix

/-- Interleaved calls do not mix up results. After any moves, every entry of the cache holds what one call
has got from running the script of its own request. It stands under the key of this request, with the
reading of the clock at which the call ended, and of all calls with this key that have ended with success
since everything was dropped the call is the last. Each caller is at one stage, so a call that has failed,
was cancelled or still waits has left no entry. And every answer from the cache is what a call with the very
same request has got from its run, not longer ago than the lifetime. -/
theorem Room.run_keeps_results_apart (lifetime start : τ) (moves : List (Move τ)) :
    let room := run lifetime start moves
    (∀ e ∈ room.cache.entries, ∃ caller w, EndedLast room.history e.key caller e.storedAt w e.value ∧
        (∃ t, .began caller t w ∈ room.history) ∧
        room.stage caller = .ended e.storedAt w (.done e.value)) ∧
      ∀ earlier h a, earlier ++ [h] <+: room.history → h.reply? = some (.answer a) → a.cached = true →
        Backed lifetime earlier a h := by
  have hs := sound_run lifetime start moves
  intro room
  refine ⟨fun e he => ?_, fun earlier h a => hs.backed⟩
  have hdistinct : room.cache.KeysDistinct := by
    rw [hs.cache_eq]
    exact Cache.keysDistinct_after lifetime _
  obtain ⟨caller, w, hlast⟩ := hs.endedLast_of_entry? (hdistinct.entry?_eq_some he)
  obtain ⟨hstage, -⟩ := hs.ended hlast.2.mem
  exact ⟨caller, w, hlast, hs.began (by rw [hstage]; rfl), hstage⟩

/-- Two callers ask the same, and what the later end brings is kept. -/
example :
    let call : Value := .object [("path", "Base.sort")]
    let room := Room.run (10 : ℤ) 0
      [.enter 0 "get-source" call, .enter 1 "get-source" call, .tick 3, .leave 1 (.done "first"),
        .leave 0 (.done "second"), .leave 1 .cancelled, .enter 2 "get-source" call]
    room.cache.entries.map (fun e => (e.value, e.storedAt)) = [(("second" : Text), (3 : ℤ))] ∧
      room.history.filterMap Happening.reply? =
        [.answer { text := "first" }, .answer { text := "second" },
          .answer { text := "second", cached := true }] := by
  decide +kernel

end Moves

end JuliaLookup.Desk
