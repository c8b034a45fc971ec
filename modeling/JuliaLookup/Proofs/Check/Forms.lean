import JuliaLookup.Proofs.Check.Passing
import Mathlib.Tactic.SplitIfs

/-!
# Forms of single values

Which values a lenient check takes, said without the check.
-/

namespace JuliaLookup

/-- The values that stand for a truth value: itself, zero or one as a number of either kind, and a dozen
words in any case. -/
inductive Check.IsFlag : Value → Bool → Prop where
  | bool (b : Bool) : IsFlag (.bool b) b
  | zero {n : Number} (h : n.whole? = some 0) : IsFlag (.number n) false
  | one {n : Number} (h : n.whole? = some 1) : IsFlag (.number n) true
  | falseWord {t : Text} (h : t.asciiLower ∈ falseWords) : IsFlag (.str t) false
  | trueWord {t : Text} (h : t.asciiLower ∈ trueWords) : IsFlag (.str t) true

namespace CodePoint

theorem val_lt_of_asciiLower {c : CodePoint} (h : c.asciiLower.val < 0x80) : c.val < 0x80 := by
  unfold asciiLower at h
  split at h <;> omega

end CodePoint

namespace Check

/-- Words in ASCII are written in ASCII, in whatever case. -/
theorem any_isSurrogate_of_asciiLower {t : Text}
    (hascii : (t.asciiLower.all fun c => c.val < 0x80) = true) :
    t.any CodePoint.isSurrogate = false := by
  rw [List.any_eq_false]
  intro c hc hsurrogate
  have hlow := List.all_eq_true.mp hascii c.asciiLower (List.mem_map_of_mem hc)
  have hval := CodePoint.val_lt_of_asciiLower (of_decide_eq_true hlow)
  rw [CodePoint.isSurrogate, Bool.and_eq_true, decide_eq_true_eq] at hsurrogate
  omega

theorem flagOfInt_eq_ok_iff {n : Int} {b : Bool} :
    flagOfInt n = .ok b ↔ (n = 0 ∧ b = false) ∨ (n = 1 ∧ b = true) := by
  unfold flagOfInt
  split_ifs <;> cases b <;> simp_all

theorem isFlag_number_iff {n : Number} {b : Bool} :
    IsFlag (.number n) b ↔ (n.whole? = some 0 ∧ b = false) ∨ (n.whole? = some 1 ∧ b = true) := by
  constructor
  · intro h
    cases h with
    | zero h => exact .inl ⟨h, rfl⟩
    | one h => exact .inr ⟨h, rfl⟩
  · rintro (⟨h, rfl⟩ | ⟨h, rfl⟩)
    · exact .zero h
    · exact .one h

theorem isFlag_str_iff {t : Text} {b : Bool} :
    IsFlag (.str t) b ↔ (t.asciiLower ∈ falseWords ∧ b = false) ∨ (t.asciiLower ∈ trueWords ∧ b = true) := by
  constructor
  · intro h
    cases h with
    | falseWord h => exact .inl ⟨h, rfl⟩
    | trueWord h => exact .inr ⟨h, rfl⟩
  · rintro (⟨h, rfl⟩ | ⟨h, rfl⟩)
    · exact .falseWord h
    · exact .trueWord h

theorem flag_str_eq_ok_iff {t : Text} {b : Bool} : flag (.str t) = .ok b ↔ IsFlag (.str t) b := by
  have hascii : ∀ w ∈ falseWords ++ trueWords, (w.all fun c => c.val < 0x80) = true := by decide
  have hdisjoint : ∀ w ∈ trueWords, w ∉ falseWords := by decide
  have hclean : t.asciiLower ∈ falseWords ++ trueWords → t.any CodePoint.isSurrogate = false :=
    fun h => any_isSurrogate_of_asciiLower (hascii _ h)
  rw [isFlag_str_iff, flag]
  constructor
  · intro h
    split_ifs at h with hsurrogate hfalse htrue
    · exact .inl ⟨hfalse, (Except.ok.inj h).symm⟩
    · exact .inr ⟨htrue, (Except.ok.inj h).symm⟩
  · rintro (⟨hfalse, rfl⟩ | ⟨htrue, rfl⟩)
    · rw [hclean (List.mem_append_left _ hfalse), if_neg Bool.false_ne_true, if_pos hfalse]
    · rw [hclean (List.mem_append_right _ htrue), if_neg Bool.false_ne_true,
        if_neg (hdisjoint _ htrue), if_pos htrue]

theorem flag_number_eq_ok_iff {n : Number} {b : Bool} :
    flag (.number n) = .ok b ↔ IsFlag (.number n) b := by
  -- what fits in 64 bits makes no difference to zero and one
  have hwhole : ∀ (fits : Int → Bool), fits 0 = true → fits 1 = true → ∀ m,
      (if fits m then flagOfInt m else .error .notBool) = .ok b ↔
        (m = 0 ∧ b = false) ∨ (m = 1 ∧ b = true) := by
    intro fits hzero hone m
    rw [← flagOfInt_eq_ok_iff]
    cases hm : fits m with
    | true => rw [if_pos rfl]
    | false =>
      have hne : m ≠ 0 ∧ m ≠ 1 := ⟨by rintro rfl; simp_all, by rintro rfl; simp_all⟩
      simp [flagOfInt, hne.1, hne.2]
  rw [isFlag_number_iff]
  cases n with
  | int m =>
    rw [flag, hwhole isWord64 rfl rfl, Number.whole?, Option.some.injEq, Option.some.injEq]
  | float x =>
    rw [flag]
    cases hx : (Number.float x).whole? with
    | none => simp
    | some m =>
      rw [Option.some.injEq, Option.some.injEq]
      exact hwhole isFloatWord64 rfl rfl m

theorem flag_eq_ok_iff {v : Value} {b : Bool} : flag v = .ok b ↔ IsFlag v b := by
  cases v with
  | bool b' =>
    constructor
    · intro h
      obtain rfl := Except.ok.inj h
      exact .bool b'
    · intro h
      cases h
      rfl
  | str t => exact flag_str_eq_ok_iff
  | number n => exact flag_number_eq_ok_iff
  | null => exact ⟨nofun, nofun⟩
  | list items => exact ⟨nofun, nofun⟩
  | object entries => exact ⟨nofun, nofun⟩

theorem choice_eq_ok_iff {α : Type} {named? : Text → Option α} {fault : Fault} {v : Value} {x : α} :
    choice named? fault v = .ok x ↔
      ∃ t, v = .str t ∧ t.any CodePoint.isSurrogate = false ∧ named? t = some x := by
  constructor
  · intro h
    cases v with
    | str t =>
      rw [choice] at h
      split at h
      · cases h
      case isFalse hsurrogate =>
        cases hnamed : named? t with
        | none =>
          rw [hnamed] at h
          cases h
        | some y =>
          rw [hnamed] at h
          cases h
          exact ⟨t, rfl, Bool.eq_false_iff.mpr hsurrogate, hnamed⟩
    | _ => cases h
  · rintro ⟨t, rfl, hclean, hnamed⟩
    rw [choice, hclean, if_neg Bool.false_ne_true, hnamed]

/-! ### What is said of values that are not taken -/

theorem flagOfInt_eq_error {n : Int} {fault : Fault} (h : flagOfInt n = .error fault) :
    fault = .unclearBool := by
  unfold flagOfInt at h
  split_ifs at h
  exact (Except.error.inj h).symm

/-- What is wrong with a truth value says nothing of the value. -/
theorem flag_eq_error {v : Value} {fault : Fault} (h : flag v = .error fault) :
    fault = .notUnicode ∨ fault = .notBool ∨ fault = .unclearBool := by
  cases v with
  | bool b => cases h
  | str t =>
    rw [flag] at h
    split_ifs at h
    · exact .inl (Except.error.inj h).symm
    · exact .inr (.inr (Except.error.inj h).symm)
  | number n =>
    cases n with
    | int n =>
      rw [flag] at h
      split_ifs at h
      · exact .inr (.inr (flagOfInt_eq_error h))
      · exact .inr (.inl (Except.error.inj h).symm)
    | float x =>
      rw [flag] at h
      split at h
      · split_ifs at h
        · exact .inr (.inr (flagOfInt_eq_error h))
        · exact .inr (.inl (Except.error.inj h).symm)
      · exact .inr (.inl (Except.error.inj h).symm)
  | null => exact .inr (.inl (Except.error.inj h).symm)
  | list items => exact .inr (.inl (Except.error.inj h).symm)
  | object entries => exact .inr (.inl (Except.error.inj h).symm)

/-- What is wrong with a choice says which choices there are, and nothing of the value. -/
theorem choice_eq_error {α : Type} {named? : Text → Option α} {other fault : Fault} {v : Value}
    (h : choice named? other v = .error fault) : fault = .notUnicode ∨ fault = other := by
  cases v with
  | str t =>
    rw [choice] at h
    split_ifs at h
    · exact .inl (Except.error.inj h).symm
    · split at h
      · cases h
      · exact .inr (Except.error.inj h).symm
  | _ => exact .inr (Except.error.inj h).symm

end Check

end JuliaLookup
