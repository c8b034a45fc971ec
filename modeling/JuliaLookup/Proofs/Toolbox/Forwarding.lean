import JuliaLookup.Proofs.Desk.Course
import JuliaLookup.Toolbox

/-!
# What a tool asks of the desk

A call of a client gets to the desk once its arguments have been unpacked and bound. What the client gets is
then what the desk answers, and the desk does what it is asked. A call that does not get there changes
nothing.
-/

namespace JuliaLookup.Toolbox

/-- What a call of a client asks of the desk, if its arguments get that far. -/
def forward? (name : Text) (given : Entries) : Option (Tool × Entries) :=
  match Tool.named? name with
  | none => none
  | some tool =>
    match unpackAll tool given with
    | .error _ => none
    | .ok unpacked =>
      match bind tool unpacked with
      | .error _ => none
      | .ok arguments => some (tool, arguments)

variable {name : Text} {given arguments : Entries} {tool : Tool}

theorem forward?_eq_some_iff : forward? name given = some (tool, arguments) ↔
    Tool.named? name = some tool ∧
      ∃ unpacked, unpackAll tool given = .ok unpacked ∧ bind tool unpacked = .ok arguments := by
  constructor
  · intro h
    cases hnamed : Tool.named? name with
    | none => simp [forward?, hnamed] at h
    | some tool' =>
      cases hunpack : unpackAll tool' given with
      | error excess => simp [forward?, hnamed, hunpack] at h
      | ok unpacked =>
        cases hbind : bind tool' unpacked with
        | error problems => simp [forward?, hnamed, hunpack, hbind] at h
        | ok arguments' =>
          simp only [forward?, hnamed, hunpack, hbind, Option.some.injEq, Prod.mk.injEq] at h
          obtain ⟨rfl, rfl⟩ := h
          exact ⟨rfl, unpacked, hunpack, hbind⟩
  · rintro ⟨hnamed, unpacked, hunpack, hbind⟩
    simp only [forward?, hnamed, hunpack, hbind]

variable {τ : Type} [Sub τ] [LT τ] [DecidableRel (α := τ) (· < ·)]

/-- A call that gets to the desk does there what the desk is asked. -/
theorem call_of_forward (h : forward? name given = some (tool, arguments)) (runner : Desk.Runner)
    (now later : τ) (c : Cache τ) :
    let turn := Desk.call runner now later tool.name arguments c
    call runner now later name given c = { turn with reply := reply tool turn.reply } := by
  obtain ⟨hnamed, unpacked, hunpack, hbind⟩ := forward?_eq_some_iff.mp h
  intro turn
  simp only [call, hnamed, hunpack, hbind, turn]

/-- A call that does not get to the desk leaves everything there as it is, and the client gets no text. -/
theorem call_of_not_forward (h : forward? name given = none) (runner : Desk.Runner) (now later : τ)
    (c : Cache τ) :
    ∃ reply, (∀ t, reply ≠ .text t) ∧ call runner now later name given c = { reply, cache := c } := by
  cases hnamed : Tool.named? name with
  | none => exact ⟨.unknownTool name, nofun, by simp only [call, hnamed]⟩
  | some tool =>
    cases hunpack : unpackAll tool given with
    | error excess => exact ⟨.unreadable tool excess, nofun, by simp only [call, hnamed, hunpack]⟩
    | ok unpacked =>
      cases hbind : bind tool unpacked with
      | error problems => exact ⟨.invalid problems, nofun, by simp only [call, hnamed, hunpack, hbind]⟩
      | ok arguments => simp [forward?, hnamed, hunpack, hbind] at h

end JuliaLookup.Toolbox
