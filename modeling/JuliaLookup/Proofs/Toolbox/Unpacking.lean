import JuliaLookup.Proofs.Request.Grammar
import JuliaLookup.Proofs.Value.Reading
import JuliaLookup.Toolbox
import Mathlib.Data.List.Forall2

/-!
# Arguments unpacked

Before arguments are checked at all, texts that write a list, an object or null in JSON are taken for what
they write. That changes nothing that a parameter takes: none of the words that a parameter knows writes
such a value, and no parameter takes one.
-/

namespace JuliaLookup

theorem mapM_eq_ok_iff {ε α β : Type} {f : α → Except ε β} {as : List α} {bs : List β} :
    as.mapM f = .ok bs ↔ List.Forall₂ (fun a b => f a = .ok b) as bs := by
  induction as generalizing bs with
  | nil =>
    rw [List.mapM_nil, List.forall₂_nil_left_iff]
    exact ⟨fun h => (Except.ok.inj h).symm, fun h => congrArg Except.ok h.symm⟩
  | cons a as ih =>
    rw [List.mapM_cons, List.forall₂_cons_left_iff]
    cases hhead : f a with
    | error e =>
      constructor
      · nofun
      · rintro ⟨b, bs', hb, -⟩
        cases hb
    | ok b =>
      cases hrest : as.mapM f with
      | error e =>
        constructor
        · nofun
        · rintro ⟨b', bs', -, hall, -⟩
          rw [ih.mpr hall] at hrest
          cases hrest
      | ok bs' =>
        have hall := ih.mp hrest
        constructor
        · intro h
          exact ⟨b, bs', rfl, hall, (Except.ok.inj h).symm⟩
        · rintro ⟨b', bs'', hb, hall', rfl⟩
          obtain rfl := Except.ok.inj hb
          rw [ih.mpr hall'] at hrest
          obtain rfl := Except.ok.inj hrest
          rfl

theorem Toolbox.unpack_str_of_word {t : Text} (hletter : t.beginsWithLetter = true)
    (hnull : ¬ ("null" : Text) <+: t) : unpack (.str t) = .ok (.str t) := by
  cases t with
  | nil => cases hletter
  | cons c rest =>
    rw [unpack]
    rcases Json.read_of_isAsciiLetter hletter rest with ⟨v, rest', hname, hread⟩ | hread
    · rw [hread]
      rcases Json.readName_cases hname with ⟨-, hlead⟩ | ⟨b, rfl⟩ | ⟨n, rfl⟩
      · exact absurd ⟨rest', hlead.symm⟩ hnull
      · rfl
      · rfl
    · rw [hread]

/-! ### Parameters -/

namespace Parameter

variable {p : Parameter} {v w x : Value}

/-- Every word for a truth value is a digit, or it begins with a letter and not like `null`. -/
theorem words_cases : ∀ w ∈ Check.falseWords ++ Check.trueWords, w = ("0" : Text) ∨ w = ("1" : Text) ∨
    (w.beginsWithLetter = true ∧ ¬ ("null" : Text) <+: w) := by
  decide

theorem unpack_of_isFlag {b : Bool} (h : Check.IsFlag v b) : Toolbox.unpack v = .ok v := by
  cases v with
  | str t =>
    have hword : t.asciiLower ∈ Check.falseWords ++ Check.trueWords := by
      rcases Check.isFlag_str_iff.mp h with ⟨hfalse, -⟩ | ⟨htrue, -⟩
      · exact List.mem_append_left _ hfalse
      · exact List.mem_append_right _ htrue
    rcases words_cases _ hword with hzero | hone | ⟨hletter, hnull⟩
    · have hself : t.asciiLower = t := Text.asciiLower_eq_self (by rw [hzero]; decide)
      rw [← hself, hzero]
      rfl
    · have hself : t.asciiLower = t := Text.asciiLower_eq_self (by rw [hone]; decide)
      rw [← hself, hone]
      rfl
    · -- the case of the letters makes no difference to either condition
      have hprefix : ¬ ("null" : Text) <+: t := fun hlead => hnull (hlead.map CodePoint.asciiLower)
      exact Toolbox.unpack_str_of_word ((Text.beginsWithLetter_asciiLower t).mp hletter) hprefix
  | _ => rfl

/-- What a parameter takes stands for itself. -/
theorem Takes.unpack (h : p.Takes v w) : Toolbox.unpack v = .ok v := by
  cases h with
  | level d => cases d <;> exact Toolbox.unpack_str_of_word (by decide) (by decide)
  | flag hflag => exact unpack_of_isFlag hflag

/-- A list, an object or null is nothing that a parameter takes, so what it takes was not unpacked. -/
theorem Takes.eq_of_unpack (h : p.Takes w x) (hunpack : Toolbox.unpack v = .ok w) : w = v := by
  cases v with
  | str t =>
    rw [Toolbox.unpack] at hunpack
    split at hunpack
    · obtain rfl := Except.ok.inj hunpack
      cases h with
      | flag hflag => cases hflag
    · obtain rfl := Except.ok.inj hunpack
      cases h with
      | flag hflag => cases hflag
    · obtain rfl := Except.ok.inj hunpack
      cases h with
      | flag hflag => cases hflag
    · cases hunpack
    · exact (Except.ok.inj hunpack).symm
  | _ => exact (Except.ok.inj hunpack).symm

end Parameter

/-! ### Whole calls -/

namespace Toolbox

variable {tool : Tool} {given unpacked : Entries}

/-- How an argument of a tool stands before and after unpacking. -/
def Unpacks (tool : Tool) (before after : Text × Value) : Prop :=
  after.1 = before.1 ∧
    if before.1 ∈ tool.parameters.map Parameter.name then unpack before.2 = .ok after.2
    else after.2 = before.2

theorem unpackAll_eq_ok_iff :
    unpackAll tool given = .ok unpacked ↔ List.Forall₂ (Unpacks tool) given unpacked := by
  have hentry (before after : Text × Value) : Unpacks tool before after ↔
      (if before.1 ∈ tool.parameters.map Parameter.name then
        (unpack before.2).map (before.1, ·) else .ok (before.1, before.2)) = Except.ok after := by
    obtain ⟨name, v⟩ := before
    obtain ⟨name', v'⟩ := after
    unfold Unpacks
    dsimp only
    split_ifs with hparameter
    · rw [map_eq_ok_iff]
      simp [and_comm, eq_comm]
    · simp [eq_comm]
  rw [unpackAll, mapM_eq_ok_iff]
  constructor
  · exact List.Forall₂.imp fun before after h => (hentry before after).mpr h
  · exact List.Forall₂.imp fun before after h => (hentry before after).mp h

/-- What is found under a name is what was found there before, or what that stands for. -/
theorem get?_of_unpacks (h : List.Forall₂ (Unpacks tool) given unpacked) (name : Text) :
    (given.get? name = none ∧ unpacked.get? name = none) ∨
      ∃ v w, given.get? name = some v ∧ unpacked.get? name = some w ∧
        Unpacks tool (name, v) (name, w) := by
  induction h with
  | nil => exact .inl ⟨rfl, rfl⟩
  | @cons before after given unpacked hfirst _ ih =>
    obtain ⟨n, v⟩ := before
    obtain ⟨n', w⟩ := after
    obtain rfl : n' = n := hfirst.1
    by_cases hname : n' = name
    · subst hname
      exact .inr ⟨v, w, if_pos rfl, if_pos rfl, hfirst⟩
    · rw [Entries.get?, Entries.get?, if_neg hname, if_neg hname]
      exact ih

end Toolbox

end JuliaLookup
