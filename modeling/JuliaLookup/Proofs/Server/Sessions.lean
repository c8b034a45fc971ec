import JuliaLookup.Proofs.Desk.Stretch
import JuliaLookup.Proofs.Toolbox.Forwarding
import JuliaLookup.Server

/-!
# Sessions of a server

One server serves sessions, one after another, at one desk. In a session clients call tools, any number of
them at a time, and the runs of their calls come to their outcomes, in any order and whatever the clock
shows. A session is left when its body is through or raises, and cleans up either way. Main statement:
`sessions_isolated`.
-/

namespace JuliaLookup.Server

/-- What may come next in a session. -/
inductive Act where
  | call (caller : Nat) (name : Text) (given : Entries)
  | arrive (caller : Nat) (outcome : Outcome Text)
  | tick (now : Number)

/-- The move that an act is at the desk, if it is one. -/
def Act.move? : Act → Option (Desk.Move Number)
  | call caller name given => (Toolbox.forward? name given).map fun (tool, arguments) =>
    .enter caller tool.name (.object arguments)
  | arrive caller outcome => some (.leave caller outcome)
  | tick now => some (.tick now)

/-- The room after an act. -/
def act (room : Desk.Room Number) (a : Act) : Desk.Room Number :=
  match a.move? with
  | some move => room.move move
  | none => room

/-- The room while a session lasts, after some of its acts. -/
def during (room : Desk.Room Number) (acts : List Act) : Desk.Room Number := acts.foldl act room

/-- The room when a session has cleaned up. -/
def cleanUp (room : Desk.Room Number) : Desk.Room Number :=
  { room with cache := (leave room.cache).1, history := room.history ++ [.cleared] }

/-- How the body of a session ends. -/
inductive Exit where
  | through
  | raised (why : Text)

/-- What comes to pass in a session until its body ends, and how it ends. -/
structure Session where
  acts : List Act
  exit : Exit

/-- The room after a session, and how the session is left. What was raised goes on after the cleaning. -/
def Session.run (s : Session) (room : Desk.Room Number) : Desk.Room Number × Exit :=
  let room := during room s.acts
  match s.exit with
  | .through => (cleanUp room, .through)
  | .raised why => (cleanUp room, .raised why)

/-- The room after sessions of a server, one after another, whatever way each is left. -/
def after (server : Server) (start : Number) (sessions : List Session) : Desk.Room Number :=
  sessions.foldl (fun room s => (s.run room).1) { cache := server.cache, now := start }

variable {room : Desk.Room Number} {server : Server} {start : Number} {sessions : List Session}

theorem run_fst (s : Session) (room : Desk.Room Number) :
    (s.run room).1 = cleanUp (during room s.acts) := by
  unfold Session.run
  cases s.exit <;> rfl

theorem step_act (room : Desk.Room Number) (a : Act) : room.Step (act room a) := by
  unfold act
  cases a.move? with
  | none => exact .stays
  | some move => exact Desk.Room.step_move room move

theorem step_cleanUp (room : Desk.Room Number) : room.Step (cleanUp room) := .clear

/-- A client who calls for the first time makes the request of the call. -/
theorem exists_asks_of_call {caller : Nat} {name : Text} {given arguments : Entries} {tool : Tool}
    {request : Request} (hfresh : room.stage caller = .outside)
    (hforward : Toolbox.forward? name given = some (tool, arguments))
    (hcall : Request.ofCall tool.name arguments = .ok request) :
    ∃ h, (act room (.call caller name given)).history = room.history ++ [h] ∧
      h.asks? = some request := by
  have hact : act room (.call caller name given) =
      room.enter caller tool.name (.object arguments) := by
    simp only [act, Act.move?, hforward, Option.map_some, Desk.Room.move, hfresh]
  rw [hact]
  exact room.exists_asks_of_enter caller (Desk.requestOf?_object_eq_some_iff.mpr hcall)

/-- What every step keeps holds all through a session. -/
theorem during_induction (P : Desk.Room Number → Prop) (hstart : P room)
    (hstep : ∀ {r r' : Desk.Room Number}, P r → r.Step r' → P r') (acts : List Act) :
    P (during room acts) := by
  induction acts using List.reverseRecOn with
  | nil => exact hstart
  | append_singleton acts a ih =>
    rw [during, List.foldl_concat, ← during]
    exact hstep ih (step_act _ a)

theorem after_concat (s : Session) :
    server.after start (sessions ++ [s]) = cleanUp (during (server.after start sessions) s.acts) := by
  rw [after, List.foldl_concat, ← after, run_fst]

/-- What holds of an empty room and is kept by every step holds after any sessions. -/
theorem after_induction (P : Desk.Room Number → Prop)
    (hstart : P { cache := server.cache, now := start })
    (hstep : ∀ {r r' : Desk.Room Number}, P r → r.Step r' → P r') (sessions : List Session) :
    P (server.after start sessions) := by
  induction sessions using List.reverseRecOn with
  | nil => exact hstart
  | append_singleton sessions s ih =>
    rw [after_concat]
    exact hstep (during_induction P ih hstep s.acts) (step_cleanUp _)

theorem sound_after (server : Server) (start : Number) (sessions : List Session) :
    (server.after start sessions).Sound (.int server.lifetime) :=
  after_induction (Desk.Room.Sound (.int server.lifetime))
    (Desk.Room.sound_run (.int server.lifetime) start []) (fun hs hstep => hs.step hstep) sessions

/-- Between two sessions nothing is kept. -/
theorem bare_after (server : Server) (start : Number) (sessions : List Session) :
    (server.after start sessions).Bare ∧ (server.after start sessions).cache.entries = [] := by
  induction sessions using List.reverseRecOn with
  | nil => exact ⟨.inl rfl, rfl⟩
  | append_singleton sessions s _ =>
    rw [after_concat]
    exact ⟨.inr ⟨_, rfl⟩, rfl⟩

/-- A session is a stretch if nobody waits when it begins. -/
theorem exists_stretch (hidle : room.Idle) (acts : List Act) :
    ∃ news, room.Stretch (during room acts) news := by
  refine during_induction (fun r => ∃ news, room.Stretch r news) ⟨[], hidle.stretch⟩ ?_ acts
  rintro r r' ⟨news, hs⟩ hstep
  exact hs.step hstep

/-- Sessions are isolated. Let any sessions pass in which every call comes to its end. However they were
left, the cache is empty then. And whatever comes to pass in a session after them: the first call for a
request in it is run, and an answer from the cache is what such a run came to, which began and ended in this
very session; so no session is served what was kept in another. -/
theorem sessions_isolated {server : Server} {start : Number} {sessions : List Session}
    (hidle : (server.after start sessions).Idle) (acts : List Act) :
    let before := server.after start sessions
    before.cache.entries = [] ∧
      ∃ news, (during before acts).history = before.history ++ news ∧
        ∀ past h, past ++ [h] <+: news →
          (∀ request, h.asks? = some request → (∀ x ∈ past, x.asks? ≠ some request) →
            ∃ caller now w, h = .began caller now w ∧ w.request = request) ∧
          ∀ a, h.reply? = some (.answer a) → a.cached = true →
            ∃ caller t s w, h.asks? = some w.request ∧ .began caller t w ∈ past ∧
              .ended caller s w (.done a.text) (.answer { text := a.text }) ∈ past := by
  intro before
  obtain ⟨hbare, hempty⟩ := bare_after server start sessions
  have hsound : (during before acts).Sound (.int server.lifetime) :=
    during_induction _ (sound_after server start sessions) (fun hs hstep => hs.step hstep) acts
  obtain ⟨news, hs⟩ := exists_stretch hidle acts
  refine ⟨hempty, news, hs.history_eq, fun past h hupto => ⟨?_, ?_⟩⟩
  · intro request hasks hfirst
    exact hs.eq_began hbare hsound hupto hasks hfirst
  · intro a hreply hcached
    exact hs.exists_ran hbare hsound hupto hreply hcached

/-- What a session kept that was left with an exception is not there in the next, where the same request is
run again. -/
theorem sessions_isolated_of_raised :
    let server : Server := { launcher := {}, lifetime := 300 }
    let sessions : List Session :=
      [{ acts := [.call 0 "get-source" [("path", "sort")], .arrive 0 (.done "source")]
         exit := .raised "stopped" }]
    let before := server.after (.int 0) sessions
    let room := during before [.call 1 "get-source" [("path", " sort")]]
    before.Idle ∧ before.cache.entries = [] ∧
      ∃ caller now w, room.history = before.history ++ [.began caller now w] := by
  intro server sessions
  -- only the caller of the first session has come anywhere, and the run of that call is over
  obtain ⟨s, now, w, outcome, hstage⟩ : ∃ s now w outcome, (server.after (.int 0) sessions).stage =
      Function.update (Function.update (fun _ => .outside) 0 s) 0 (.ended now w outcome) :=
    ⟨_, _, _, _, rfl⟩
  have hidle : (server.after (.int 0) sessions).Idle := by
    intro caller w hwaits
    rw [hstage] at hwaits
    by_cases hcaller : caller = 0
    · rw [hcaller, Function.update_self] at hwaits
      cases hwaits
    · rw [Function.update_of_ne hcaller, Function.update_of_ne hcaller] at hwaits
      cases hwaits
  have hfresh : (server.after (.int 0) sessions).stage 1 = .outside := by
    rw [hstage, Function.update_of_ne (by decide), Function.update_of_ne (by decide)]
  let given : Entries := [("path", " sort")]
  obtain ⟨hempty, news, hnews, hfirst⟩ := sessions_isolated hidle [.call 1 "get-source" given]
  -- nothing else of the first session counts
  clear hstage
  generalize server.after (.int 0) sessions = before at *
  have hforward : Toolbox.forward? "get-source" given = some (Tool.getSource, given) := rfl
  have hcall : Request.ofCall Tool.getSource.name given =
      .ok { tool := .getSource, path := "sort" } := rfl
  obtain ⟨x, hhistory, hasks⟩ := exists_asks_of_call hfresh hforward hcall
  obtain rfl : news = [x] := List.append_cancel_left (hnews.symm.trans hhistory)
  obtain ⟨hruns, -⟩ := hfirst [] x (List.prefix_refl [x])
  obtain ⟨caller, now, w, rfl, -⟩ := hruns _ hasks fun _ h => absurd h List.not_mem_nil
  exact ⟨hidle, hempty, caller, now, w, hhistory⟩

end JuliaLookup.Server
