import JuliaLookup.Proofs.Desk.Interleaving

/-!
# Stretches of a history

A stretch begins in a room where nobody waits and everything has just been dropped. Whatever happens from
then on, every run that ends has begun within the stretch, and every answer from the cache is what such a
run came to. So the first call for a request in the stretch is run.
-/

namespace JuliaLookup.Desk

variable {τ : Type}

/-- The request that is made when something happens, if one is. -/
def Happening.asks? : Happening τ → Option Request
  | answered _ _ operation arguments _ => requestOf? operation arguments
  | began _ _ w => some w.request
  | _ => none

/-- Nobody waits. -/
def Room.Idle (room : Room τ) : Prop := ∀ caller w, room.stage caller ≠ .waiting w

/-- Nothing has happened, or everything that was kept has just been dropped. -/
def Room.Bare (room : Room τ) : Prop :=
  room.history = [] ∨ ∃ earlier, room.history = earlier ++ [.cleared]

/-- What holds of the news of a room since it was idle. -/
structure Room.Stretch (before room : Room τ) (news : List (Happening τ)) : Prop where
  history_eq : room.history = before.history ++ news
  waiting : ∀ {caller w}, room.stage caller = .waiting w → ∃ t, .began caller t w ∈ news
  began : ∀ {past caller s w outcome reply}, past ++ [.ended caller s w outcome reply] <+: news →
    ∃ t, .began caller t w ∈ past
  cached : ∀ {caller now operation arguments reply request},
    .answered caller now operation arguments reply ∈ news → requestOf? operation arguments = some request →
    ∃ a, reply = .answer a ∧ a.cached = true

variable {before room room' : Room τ} {news past : List (Happening τ)} {h : Happening τ}

theorem Room.Idle.stretch (hidle : before.Idle) : Room.Stretch before before [] where
  history_eq := (List.append_nil _).symm
  waiting := by
    intro caller w hwaits
    exact absurd hwaits (hidle caller w)
  began := by
    intro past caller s w outcome reply hupto
    simp at hupto
  cached := nofun

section Enter

variable [Sub τ] [LT τ] [DecidableRel (α := τ) (· < ·)] {operation arguments : Value} {request : Request}

/-- Whoever enters with a request makes it. -/
theorem Room.exists_asks_of_enter (room : Room τ) (caller : Nat)
    (hrequest : requestOf? operation arguments = some request) :
    ∃ h, (room.enter caller operation arguments).history = room.history ++ [h] ∧
      h.asks? = some request := by
  cases arguments with
  | object given =>
    have hcall := requestOf?_object_eq_some_iff.mp hrequest
    cases hresult : (receive room.now operation given room.cache).result with
    | answered a =>
      rw [enter_of_answered hresult]
      exact ⟨_, rfl, hrequest⟩
    | pending r script =>
      obtain ⟨w, hw, -, -, henter⟩ := exists_enter_of_pending hresult caller
      obtain ⟨hcall', -⟩ := of_receive_pending hresult
      obtain rfl : r = request := Except.ok.inj (hcall'.symm.trans hcall)
      rw [henter]
      exact ⟨_, rfl, congrArg some hw⟩
  | _ => cases hrequest

end Enter

namespace Room.Stretch

/-! ### What a step preserves -/

/-- One more happening, with what it makes of how far callers have come. -/
theorem append (hs : Room.Stretch before room news) {cache : Cache τ} {stage : Nat → Stage τ}
    (hwaiting : ∀ {caller w}, stage caller = .waiting w →
      room.stage caller = .waiting w ∨ ∃ t, h = .began caller t w)
    (hended : ∀ {caller s w outcome reply}, h = .ended caller s w outcome reply →
      room.stage caller = .waiting w)
    (hcached : ∀ {caller now operation arguments reply request},
      h = .answered caller now operation arguments reply → requestOf? operation arguments = some request →
      ∃ a, reply = .answer a ∧ a.cached = true) :
    Room.Stretch before { room with cache, stage, history := room.history ++ [h] } (news ++ [h]) where
  history_eq := by
    show room.history ++ [h] = before.history ++ (news ++ [h])
    rw [hs.history_eq, List.append_assoc]
  waiting := by
    intro caller w hwaits
    rcases hwaiting hwaits with hold | ⟨t, rfl⟩
    · obtain ⟨t, ht⟩ := hs.waiting hold
      exact ⟨t, List.mem_append_left _ ht⟩
    · exact ⟨t, List.mem_append_right _ (List.mem_singleton_self _)⟩
  began := by
    intro past caller s w outcome reply hupto
    rcases List.prefix_concat_iff.mp hupto with hlast | hbefore
    · obtain ⟨rfl, hh⟩ := List.append_inj' hlast rfl
      exact hs.waiting (hended (List.singleton_injective hh).symm)
    · exact hs.began hbefore
  cached := by
    intro caller now operation arguments reply request hmem hrequest
    rcases List.mem_append.mp hmem with hold | hnew
    · exact hs.cached hold hrequest
    · exact hcached (List.mem_singleton.mp hnew).symm hrequest

/-- The same where the happening concerns one caller. -/
theorem happen (hs : Room.Stretch before room news) {cache : Cache τ} {caller : Nat} {stage : Stage τ}
    (hwaiting : ∀ {w}, stage = .waiting w → ∃ t, h = .began caller t w)
    (hended : ∀ {other s w outcome reply}, h = .ended other s w outcome reply →
      room.stage other = .waiting w)
    (hcached : ∀ {other now operation arguments reply request},
      h = .answered other now operation arguments reply → requestOf? operation arguments = some request →
      ∃ a, reply = .answer a ∧ a.cached = true) :
    Room.Stretch before (room.happen cache caller stage h) (news ++ [h]) := by
  refine hs.append ?_ hended hcached
  intro other w hwaits
  by_cases hother : other = caller
  · subst hother
    rw [Function.update_self] at hwaits
    exact .inr (hwaiting hwaits)
  · rw [Function.update_of_ne hother] at hwaits
    exact .inl hwaits

section Moves

variable [Sub τ] [LT τ] [DecidableRel (α := τ) (· < ·)]

theorem step (hs : Room.Stretch before room news) (hstep : room.Step room') :
    ∃ news', Room.Stretch before room' news' := by
  cases hstep with
  | stays => exact ⟨news, hs⟩
  | tick now => exact ⟨news, hs.history_eq, hs.waiting, hs.began, hs.cached⟩
  | clear => exact ⟨_, hs.append .inl nofun nofun⟩
  | @refused caller operation arguments reply fresh norequest uncached =>
    refine ⟨_, hs.happen nofun nofun ?_⟩
    intro other now operation' arguments' reply' request heq hrequest
    cases heq
    rw [norequest] at hrequest
    cases hrequest
  | @hit caller operation given request e fresh call_eq found live =>
    refine ⟨_, hs.happen nofun nofun ?_⟩
    intro other now operation' arguments' reply' request' heq hrequest
    cases heq
    exact ⟨_, rfl, rfl⟩
  | @began caller w fresh missed =>
    refine ⟨_, hs.happen ?_ nofun nofun⟩
    intro w' hw
    cases hw
    exact ⟨room.now, rfl⟩
  | @ended caller w waits outcome =>
    refine ⟨_, hs.happen nofun ?_ nofun⟩
    intro other s w' outcome' reply heq
    cases heq
    exact waits

/-! ### What holds of a stretch -/

variable {lifetime : τ} {a : Answer}

/-- What is answered from the cache was run within the stretch. -/
theorem exists_ran (hs : Room.Stretch before room news) (hbare : before.Bare)
    (hsound : room.Sound lifetime) (hupto : past ++ [h] <+: news)
    (hreply : h.reply? = some (.answer a)) (hcached : a.cached = true) :
    ∃ caller t s w, h.asks? = some w.request ∧ .began caller t w ∈ past ∧
      .ended caller s w (.done a.text) (.answer { text := a.text }) ∈ past := by
  have hwhole : (before.history ++ past) ++ [h] <+: room.history := by
    rw [hs.history_eq, List.append_assoc]
    exact (List.prefix_append_right_inj _).mpr hupto
  obtain ⟨asker, now, operation, given, caller, s, w, rfl, hcall, ⟨-, hsince⟩, -⟩ :=
    hsound.backed hwhole hreply hcached
  -- the run has ended after everything was dropped, so within the stretch
  have hended : .ended caller s w (.done a.text) (.answer { text := a.text }) ∈ past := by
    rcases since_append.mp hsince with hpast | ⟨hbefore, -⟩
    · exact hpast.mem
    · rcases hbare with hnil | ⟨earlier, hcleared⟩
      · rw [hnil] at hbefore
        exact absurd hbefore not_since_nil
      · rw [hcleared] at hbefore
        rcases since_concat.mp hbefore with heq | ⟨-, hends⟩
        · cases heq
        · exact absurd (.inl rfl) hends
  obtain ⟨sooner, later, hsplit⟩ := List.append_of_mem hended
  have hupto' : sooner ++ [.ended caller s w (.done a.text) (.answer { text := a.text })] <+: news := by
    refine List.IsPrefix.trans ⟨later, ?_⟩ ((List.prefix_append past _).trans hupto)
    rw [hsplit, List.append_assoc]
    rfl
  obtain ⟨t, ht⟩ := hs.began hupto'
  refine ⟨caller, t, s, w, requestOf?_object_eq_some_iff.mpr hcall, ?_, hended⟩
  rw [hsplit]
  exact List.mem_append_left _ ht

/-- The first call for a request in a stretch is run. -/
theorem eq_began (hs : Room.Stretch before room news) (hbare : before.Bare)
    (hsound : room.Sound lifetime) (hupto : past ++ [h] <+: news) {request : Request}
    (hasks : h.asks? = some request) (hfirst : ∀ x ∈ past, x.asks? ≠ some request) :
    ∃ caller now w, h = .began caller now w ∧ w.request = request := by
  cases h with
  | began caller now w => exact ⟨caller, now, w, rfl, Option.some.inj hasks⟩
  | ended => cases hasks
  | cleared => cases hasks
  | answered caller now operation arguments reply =>
    have hmem : .answered caller now operation arguments reply ∈ news :=
      hupto.subset (List.mem_append_right _ (List.mem_singleton_self _))
    obtain ⟨a, rfl, hcached⟩ := hs.cached hmem hasks
    obtain ⟨author, t, s, w, hasks', hbegan, -⟩ := hs.exists_ran hbare hsound hupto rfl hcached
    have hsame : w.request = request := Option.some.inj (hasks'.symm.trans hasks)
    exact absurd (congrArg some hsame) (hfirst _ hbegan)

end Moves

end Room.Stretch

end JuliaLookup.Desk
