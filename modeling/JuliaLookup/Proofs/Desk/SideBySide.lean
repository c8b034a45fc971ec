import JuliaLookup.Proofs.Desk.Room

/-!
# Calls side by side are an interleaving

What `together` does, a room does too: the callers enter in the order of receipt, and each leaves when its
work has ended. So the desk comes to no cache and gives no reply side by side that a room with the same
calls could not come to and give, and what holds of a room after any moves holds of calls side by side.
-/

namespace JuliaLookup.Desk

variable {τ : Type} {n : Nat}

/-- A caller is told how its call has ended. -/
def Happening.Tells (caller : Nat) (call : Value × Value) (reply : Reply) : Happening τ → Prop
  | answered c _ operation arguments r => c = caller ∧ (operation, arguments) = call ∧ r = reply
  | ended c _ w _ r => c = caller ∧ w.call = call ∧ r = reply
  | _ => False

/-- A caller with a call stands in the room where it stands at the desk. -/
def Stands (room : Room τ) (caller : Nat) (call : Value × Value) : Standing n → Prop
  | .over reply => ∃ h ∈ room.history, h.Tells caller call reply
  | .working request _ => ∃ w, room.stage caller = .waiting w ∧ w.request = request ∧ w.call = call

/-- So do all callers from one on. -/
inductive StandAll (room : Room τ) : Nat → List (Value × Value) → List (Standing n) → Prop where
  | nil (first : Nat) : StandAll room first [] []
  | cons {first : Nat} {call : Value × Value} {calls : List (Value × Value)} {s : Standing n}
    {others : List (Standing n)} (head : Stands room first call s)
    (tail : StandAll room (first + 1) calls others) : StandAll room first (call :: calls) (s :: others)

variable {room : Room τ} {caller first : Nat} {call : Value × Value} {calls : List (Value × Value)}

/-- What happens to a caller leaves it told. -/
theorem stands_happen {cache : Cache τ} {stage : Stage τ} {h : Happening τ} {reply : Reply}
    (htells : h.Tells caller call reply) :
    Stands (room.happen cache caller stage h) caller call (.over reply : Standing n) :=
  ⟨h, List.mem_append_right _ (List.mem_singleton_self h), htells⟩

theorem StandAll.tells {replies : List Reply}
    (h : StandAll room first calls (replies.map fun reply => (.over reply : Standing n))) {i : Nat}
    (hcall : calls[i]? = some call) :
    ∃ reply, replies[i]? = some reply ∧ ∃ x ∈ room.history, x.Tells (first + i) call reply := by
  induction replies generalizing first calls i with
  | nil =>
    cases h
    cases hcall
  | cons reply rest ih =>
    cases h with
    | cons head tail =>
      cases i with
      | zero =>
        obtain rfl := Option.some.inj hcall
        exact ⟨reply, rfl, head⟩
      | succ i =>
        obtain ⟨r, hr, hx⟩ := ih tail hcall
        rw [Nat.add_assoc, Nat.add_comm 1 i] at hx
        exact ⟨r, hr, hx⟩

section Moves

variable [Sub τ] [LT τ] [DecidableRel (α := τ) (· < ·)]

/-- Moves lead from one room to another. They concern certain callers only, and take no time. -/
structure Leads (concerned : Nat → Prop) (room room' : Room τ) : Prop where
  moves : ∃ moves : List (Move τ), room' = moves.foldl Room.move room
  now_eq : room'.now = room.now
  stage_eq : ∀ caller, ¬ concerned caller → room'.stage caller = room.stage caller
  history_subset : room.history ⊆ room'.history

/-- Moves that concern one caller take it where it stands at the desk, and leave the cache of the desk. -/
def Follows (room : Room τ) (caller : Nat) (call : Value × Value) (desk : Standing n × Floor τ) : Prop :=
  ∃ room', Leads (· = caller) room room' ∧ Stands room' caller call desk.1 ∧ room'.cache = desk.2.cache

/-- So do moves that concern all callers from one on. -/
def FollowAll (room : Room τ) (first : Nat) (calls : List (Value × Value))
    (desk : List (Standing n) × Floor τ) : Prop :=
  ∃ room', Leads (first ≤ ·) room room' ∧ StandAll room' first calls desk.1 ∧
    room'.cache = desk.2.cache

variable {room' room'' : Room τ} {p q : Nat → Prop} {f : Floor τ} {now : τ}

theorem Leads.refl (p : Nat → Prop) (room : Room τ) : Leads p room room :=
  ⟨⟨[], rfl⟩, rfl, fun _ _ => rfl, List.Subset.refl _⟩

theorem Leads.trans (h : Leads p room room') (h' : Leads q room' room'') :
    Leads (fun caller => p caller ∨ q caller) room room'' := by
  obtain ⟨moves, rfl⟩ := h.moves
  obtain ⟨moves', rfl⟩ := h'.moves
  refine ⟨⟨moves ++ moves', List.foldl_append.symm⟩, h'.now_eq.trans h.now_eq, fun caller hout => ?_,
    List.Subset.trans h.history_subset h'.history_subset⟩
  rw [h'.stage_eq caller fun hq => hout (.inr hq), h.stage_eq caller fun hp => hout (.inl hp)]

theorem Leads.mono (h : Leads p room room') (himp : ∀ caller, p caller → q caller) : Leads q room room' :=
  ⟨h.moves, h.now_eq, fun caller hout => h.stage_eq caller fun hp => hout (himp caller hp),
    h.history_subset⟩

theorem leads_of_move {m : Move τ} {cache : Cache τ} {stage : Stage τ} {h : Happening τ}
    (hm : room.move m = room.happen cache caller stage h) :
    Leads (· = caller) room (room.happen cache caller stage h) :=
  ⟨⟨[m], hm.symm⟩, rfl, fun _ hne => room.stage_happen_of_ne hne cache stage h,
    List.subset_append_left _ _⟩

theorem Follows.of_leads {desk : Standing n × Floor τ} (h : Follows room' caller call desk)
    (hlead : Leads (· = caller) room room') : Follows room caller call desk := by
  obtain ⟨room'', hlead', hstand, hcache⟩ := h
  exact ⟨room'', (hlead.trans hlead').mono fun c hc => hc.elim id id, hstand, hcache⟩

/-- Moves that do not concern a caller leave it where it stands. -/
theorem Stands.of_leads {s : Standing n} (hs : Stands room caller call s) (h : Leads p room room')
    (hout : ¬ p caller) : Stands room' caller call s := by
  rcases s with reply | ⟨request, work⟩
  · obtain ⟨x, hx, htells⟩ := hs
    exact ⟨x, h.history_subset hx, htells⟩
  · obtain ⟨w, hw, hasked⟩ := hs
    exact ⟨w, (h.stage_eq caller hout).trans hw, hasked⟩

theorem StandAll.of_leads {ss : List (Standing n)} (hs : StandAll room first calls ss)
    (h : Leads p room room') (hout : ∀ caller, first ≤ caller → ¬ p caller) :
    StandAll room' first calls ss := by
  induction hs with
  | nil first => exact .nil first
  | @cons first call calls s others head tail ih =>
    exact .cons (head.of_leads h (hout first le_rfl)) (ih fun caller hle => hout caller (by omega))

/-! ### One caller after another -/

theorem followAll_nil (hcache : room.cache = f.cache) :
    FollowAll room first [] (([], f) : List (Standing n) × Floor τ) :=
  ⟨room, Leads.refl _ room, .nil first, hcache⟩

/-- The first caller is taken on, and then the others. -/
theorem FollowAll.cons {s : Standing n} {f' : Floor τ} {ss : List (Standing n)}
    (hfirst : Follows room first call (s, f))
    (hothers : ∀ room', Leads (· = first) room room' → room'.cache = f.cache →
      FollowAll room' (first + 1) calls (ss, f')) :
    FollowAll room first (call :: calls) (s :: ss, f') := by
  obtain ⟨room', hlead, hs, hcache⟩ := hfirst
  obtain ⟨room'', hlead', hss, hcache'⟩ := hothers room' hlead hcache
  refine ⟨room'', (hlead.trans hlead').mono ?_, .cons (hs.of_leads hlead' (by omega)) hss, hcache'⟩
  rintro caller (rfl | hle)
  · exact le_rfl
  · omega

/-- The end of a run lets its caller leave. -/
theorem follows_leave {w : Waiting} (hw : room.stage caller = .waiting w) (outcome : Outcome Text)
    {f' : Floor τ} (hcache : f'.cache = (finish room.now w.request outcome room.cache).cache) :
    Follows room caller w.call
      ((.over (finish room.now w.request outcome room.cache).result : Standing n), f') := by
  have hm : room.move (.leave caller outcome) = room.leave caller w outcome := by
    rw [Room.move, hw]
  exact ⟨_, leads_of_move hm, stands_happen ⟨rfl, rfl, rfl⟩, hcache.symm⟩

/-- A caller that waits is taken on, and leaves if its work ends. -/
theorem follows_carryOn (hnow : room.now = now) {w : Waiting} (hw : room.stage caller = .waiting w)
    (work : Work Text n) (hcache : room.cache = f.cache) :
    Follows room caller w.call (carryOn now w.request work f) := by
  rw [carryOn]
  cases (work.advance f.attempts).stop with
  | waiting rest => exact ⟨room, Leads.refl _ room, ⟨w, hw, rfl, rfl⟩, hcache⟩
  | ended outcome =>
    rw [← hnow, ← hcache]
    exact follows_leave hw outcome rfl

theorem follows_conclude (hnow : room.now = now) {s : Standing 0} (hs : Stands room caller call s)
    (hcache : room.cache = f.cache) :
    Follows room caller call ((.over (conclude now s f).1 : Standing 0), (conclude now s f).2) := by
  rcases s with reply | ⟨request, work⟩
  · exact ⟨room, Leads.refl _ room, hs, hcache⟩
  · obtain ⟨w, hw, rfl, rfl⟩ := hs
    rw [conclude, ← hnow, ← hcache]
    exact follows_leave hw _ rfl

/-- A caller that enters is told at once, or waits and is taken on. -/
theorem follows_enter (hnow : room.now = now) (hfresh : room.stage caller = .outside)
    (runner : Script → Work Text n) (operation arguments : Value) (hcache : room.cache = f.cache) :
    Follows room caller (operation, arguments) (enter runner now operation arguments f) := by
  have hm : room.move (.enter caller operation arguments) = room.enter caller operation arguments := by
    rw [Room.move, hfresh]
  cases arguments with
  | object given =>
    rw [enter, ← hnow, ← hcache]
    cases hresult : (receive room.now operation given room.cache).result with
    | answered a =>
      rw [Room.enter_of_answered hresult] at hm
      exact ⟨_, leads_of_move hm, stands_happen ⟨rfl, rfl, rfl⟩, rfl⟩
    | pending request script =>
      obtain ⟨w, rfl, rfl, hcall, henter⟩ := Room.exists_enter_of_pending hresult caller
      rw [henter] at hm
      have hw := room.stage_happen_self (receive room.now operation given room.cache).cache caller
        (.waiting w) (.began caller room.now w)
      rw [← hcall]
      exact (follows_carryOn rfl hw (runner w.script) rfl).of_leads (leads_of_move hm)
  | _ => exact ⟨_, leads_of_move hm, stands_happen ⟨rfl, rfl, rfl⟩, hcache⟩

/-! ### All callers in turn -/

theorem followAll_enterAll (hnow : room.now = now)
    (hfresh : ∀ caller, first ≤ caller → room.stage caller = .outside)
    (runner : Script → Work Text n) (calls : List (Value × Value)) (hcache : room.cache = f.cache) :
    FollowAll room first calls (enterAll runner now calls f) := by
  induction calls generalizing room first f with
  | nil => exact followAll_nil hcache
  | cons c calls ih =>
    obtain ⟨operation, arguments⟩ := c
    have hfirst := follows_enter hnow (hfresh first le_rfl) runner operation arguments hcache
    refine FollowAll.cons hfirst fun room' hlead hcache' => ih (hlead.now_eq.trans hnow) ?_ hcache'
    intro caller hle
    rw [hlead.stage_eq caller (by omega)]
    exact hfresh caller (by omega)

theorem followAll_goRound (hnow : room.now = now) {ss : List (Standing n)}
    (hs : StandAll room first calls ss) (hcache : room.cache = f.cache) :
    FollowAll room first calls (goRound now ss f) := by
  induction ss generalizing room first calls f with
  | nil =>
    cases hs
    exact followAll_nil hcache
  | cons s others ih =>
    cases hs with
    | cons head tail =>
      rcases s with reply | ⟨request, work⟩
      · refine FollowAll.cons ⟨room, Leads.refl _ room, head, hcache⟩ fun room' hlead hcache' => ?_
        exact ih (hlead.now_eq.trans hnow) (tail.of_leads hlead (by omega)) hcache'
      · obtain ⟨w, hw, rfl, rfl⟩ := head
        refine FollowAll.cons (follows_carryOn hnow hw work hcache) fun room' hlead hcache' => ?_
        exact ih (hlead.now_eq.trans hnow) (tail.of_leads hlead (by omega)) hcache'

theorem followAll_concludeAll (hnow : room.now = now) {ss : List (Standing 0)}
    (hs : StandAll room first calls ss) (hcache : room.cache = f.cache) :
    FollowAll room first calls
      ((concludeAll now ss f).1.map fun reply => (.over reply : Standing 0), (concludeAll now ss f).2) := by
  induction ss generalizing room first calls f with
  | nil =>
    cases hs
    exact followAll_nil hcache
  | cons s others ih =>
    cases hs with
    | cons head tail =>
      refine FollowAll.cons (follows_conclude hnow head hcache) fun room' hlead hcache' => ?_
      exact ih (hlead.now_eq.trans hnow) (tail.of_leads hlead (by omega)) hcache'

theorem followAll_settle (hnow : room.now = now) {ss : List (Standing n)} (hs : StandAll room 0 calls ss)
    (hcache : room.cache = f.cache) :
    FollowAll room 0 calls
      ((settle now ss f).1.map fun reply => (.over reply : Standing 0), (settle now ss f).2) := by
  induction n generalizing room f with
  | zero => exact followAll_concludeAll hnow hs hcache
  | succ n ih =>
    obtain ⟨room', hlead, hss, hcache'⟩ := followAll_goRound hnow hs hcache
    obtain ⟨room'', hlead', hreplies, hcache''⟩ := ih (hlead.now_eq.trans hnow) hss hcache'
    exact ⟨room'', (hlead.trans hlead').mono fun caller _ => Nat.zero_le caller, hreplies, hcache''⟩

/-- Calls side by side, at a desk that begins with an empty cache, are a run of the room. The cache is the
one that the desk leaves behind, and each call has a reply, of which its caller is told in the room. -/
theorem exists_run_of_together (runner : Script → Work Text n) (lifetime now : τ)
    (calls : List (Value × Value)) {f : Floor τ} (hempty : f.cache = { lifetime }) :
    ∃ moves, (Room.run lifetime now moves).cache = (together runner now calls f).2.cache ∧
      ∀ (caller : Nat) call, calls[caller]? = some call →
        ∃ reply, (together runner now calls f).1[caller]? = some reply ∧
          ∃ h ∈ (Room.run lifetime now moves).history, h.Tells caller call reply := by
  let room : Room τ := { cache := { lifetime }, now }
  have hnow : room.now = now := rfl
  have hfresh : ∀ caller, 0 ≤ caller → room.stage caller = .outside := fun _ _ => rfl
  obtain ⟨room', hlead, hstand, hcache⟩ := followAll_enterAll hnow hfresh runner calls hempty.symm
  obtain ⟨room'', hlead', htold, hcache'⟩ := followAll_settle (hlead.now_eq.trans hnow) hstand hcache
  obtain ⟨moves, rfl⟩ := (hlead.trans hlead').moves
  refine ⟨moves, hcache', fun caller call hcall => ?_⟩
  have htells := htold.tells hcall
  rwa [Nat.zero_add] at htells

end Moves

end JuliaLookup.Desk
