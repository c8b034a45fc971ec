import Mathlib.Data.List.TakeWhile
import JuliaLookup.Complaint

/-!
# Packages named in error output

`SaysNotFound` spells out the words by which a text says that a package is not found, and `FirstNamed` picks
the leftmost of them. The search finds exactly those. A name ends where its words say so: what follows it is
a backtick or a space, and neither can stand in a name, so no other name can be read at the same place.
-/

namespace JuliaLookup.Complaint

/-- A word character that is no decimal digit, and then word characters. -/
def IsName (name : Text) : Prop :=
  ∃ c rest, name = c :: rest ∧ c.isWordStart = true ∧ ∀ d ∈ rest, d.isWord = true

/-- A backtick, or nothing in its place. -/
def IsTick (t : Text) : Prop := t = [] ∨ t = [backtick]

/-- The text begins with the words by which a package of that name is not found. -/
def SaysNotFound (t name : Text) : Prop :=
  ∃ (initial : CodePoint) (opening closing rest : Text),
    (initial = CodePoint.ofChar 'P' ∨ initial = CodePoint.ofChar 'p') ∧
    IsTick opening ∧ IsName name ∧ IsTick closing ∧
    t = initial :: (("ackage " : Text) ++ (opening ++ (name ++ (closing ++ (" not found" ++ rest)))))

/-- The name in the leftmost words of a text by which a package is not found. -/
def FirstNamed (t name : Text) : Prop :=
  ∃ before after, t = before ++ after ∧ SaysNotFound after name ∧
    ∀ before' after' name', t = before' ++ after' → SaysNotFound after' name' →
      before.length ≤ before'.length

variable {t u name : Text} {c : CodePoint}

/-! ### Names and ticks -/

theorem IsName.isWord (h : IsName name) : ∀ d ∈ name, d.isWord = true := by
  obtain ⟨c, rest, rfl, hc, hrest⟩ := h
  exact List.forall_mem_cons.mpr ⟨CodePoint.isWord_of_isWordStart hc, hrest⟩

theorem isName_iff :
    IsName name ↔ name.head?.any CodePoint.isWordStart = true ∧ ∀ d ∈ name, d.isWord = true := by
  constructor
  · intro h
    refine ⟨?_, h.isWord⟩
    obtain ⟨c, rest, rfl, hc, -⟩ := h
    exact hc
  · rintro ⟨hhead, hword⟩
    cases name with
    | nil => cases hhead
    | cons c rest => exact ⟨c, rest, rfl, hhead, (List.forall_mem_cons.mp hword).2⟩

theorem exists_isTick (t : Text) : ∃ tick, IsTick tick ∧ t = tick ++ afterBacktick t := by
  cases t with
  | nil => exact ⟨[], .inl rfl, rfl⟩
  | cons c rest =>
    by_cases hc : c = backtick
    · exact ⟨[backtick], .inr rfl, by rw [afterBacktick, if_pos hc, hc]; rfl⟩
    · exact ⟨[], .inl rfl, by rw [afterBacktick, if_neg hc]; rfl⟩

theorem afterBacktick_append {tick : Text} (htick : IsTick tick) (hc : c ≠ backtick) :
    afterBacktick (tick ++ c :: t) = c :: t := by
  rcases htick with rfl | rfl
  · rw [List.nil_append, afterBacktick, if_neg hc]
  · rw [List.singleton_append, afterBacktick, if_pos rfl]

/-! ### One place -/

theorem leads_iff : (Text.after? "package " t <|> Text.after? "Package " t) = some u ↔
    ∃ initial, (initial = CodePoint.ofChar 'P' ∨ initial = CodePoint.ofChar 'p') ∧
      t = initial :: (("ackage " : Text) ++ u) := by
  have hsmall : ("package " : Text) = CodePoint.ofChar 'p' :: ("ackage " : Text) := rfl
  have hcapital : ("Package " : Text) = CodePoint.ofChar 'P' :: ("ackage " : Text) := rfl
  have hne : CodePoint.ofChar 'P' ≠ CodePoint.ofChar 'p' := by decide
  rw [Option.orElse_eq_orElse, Option.orElse_eq_or, Option.or_eq_some_iff]
  rw [Text.after?_eq_some_iff, Text.after?_eq_some_iff, hsmall, hcapital]
  constructor
  · rintro (h | ⟨-, h⟩)
    · exact ⟨_, .inr rfl, h⟩
    · exact ⟨_, .inl rfl, h⟩
  · rintro ⟨initial, rfl | rfl, rfl⟩
    · refine .inr ⟨?_, rfl⟩
      rw [Text.after?, if_neg hne.symm]
    · exact .inl rfl

theorem isWord_backtick : backtick.isWord = false := by decide

theorem isWord_space : (CodePoint.ofChar ' ').isWord = false := by decide

/-- What follows a name does not go on with it. -/
theorem takeWhile_name {closing : Text} (hname : IsName name) (hclosing : IsTick closing) (rest : Text) :
    (name ++ (closing ++ (" not found" ++ rest))).takeWhile CodePoint.isWord = name ∧
      (name ++ (closing ++ (" not found" ++ rest))).dropWhile CodePoint.isWord =
        closing ++ (" not found" ++ rest) := by
  have hspace : (" not found" : Text) = CodePoint.ofChar ' ' :: ("not found" : Text) := rfl
  rw [List.takeWhile_append_of_pos hname.isWord, List.dropWhile_append_of_pos hname.isWord, hspace]
  rcases hclosing with rfl | rfl
  · simp [isWord_space]
  · simp [isWord_backtick]

/-- A package is found at a place if and only if the words are there. -/
theorem packageHere?_eq_some_iff : packageHere? t = some name ↔ SaysNotFound t name := by
  have hspace : (" not found" : Text) = CodePoint.ofChar ' ' :: ("not found" : Text) := rfl
  have hne : CodePoint.ofChar ' ' ≠ backtick := by decide
  constructor
  · intro h
    rw [packageHere?] at h
    cases hlead : (Text.after? "package " t <|> Text.after? "Package " t) with
    | none =>
      rw [hlead] at h
      cases h
    | some u =>
      rw [hlead] at h
      obtain ⟨initial, hinitial, rfl⟩ := leads_iff.mp hlead
      obtain ⟨opening, hopening, hu⟩ := exists_isTick u
      dsimp only [Option.map_some] at h
      generalize afterBacktick u = v at h hu
      split_ifs at h with hwords
      obtain ⟨hhead, hfound⟩ := Bool.and_eq_true_iff.mp hwords
      obtain ⟨closing, hclosing, hdrop⟩ := exists_isTick (v.dropWhile CodePoint.isWord)
      obtain ⟨rest, hrest⟩ := List.isPrefixOf_iff_prefix.mp hfound
      have hname : IsName (v.takeWhile CodePoint.isWord) :=
        isName_iff.mpr ⟨hhead, fun d hd => List.mem_takeWhile_imp hd⟩
      obtain rfl := Option.some.inj h
      refine ⟨initial, opening, closing, rest, hinitial, hopening, hname, hclosing, ?_⟩
      rw [hrest, ← hdrop, List.takeWhile_append_dropWhile, ← hu]
  · rintro ⟨initial, opening, closing, rest, hinitial, hopening, hname, hclosing, rfl⟩
    have hlead := (leads_iff (u := opening ++ (name ++ (closing ++ (" not found" ++ rest))))).mpr
      ⟨initial, hinitial, rfl⟩
    obtain ⟨htake, hdrop⟩ := takeWhile_name hname hclosing rest
    obtain ⟨c, tail, hcons, hc, -⟩ := id hname
    have hcne : c ≠ backtick := by
      rintro rfl
      have hword := CodePoint.isWord_of_isWordStart hc
      rw [isWord_backtick] at hword
      cases hword
    have hopened : afterBacktick (opening ++ (name ++ (closing ++ (" not found" ++ rest)))) =
        name ++ (closing ++ (" not found" ++ rest)) := by
      rw [hcons, List.cons_append]
      exact afterBacktick_append hopening hcne
    have hclosed : afterBacktick (closing ++ (" not found" ++ rest)) = " not found" ++ rest := by
      rw [hspace]
      exact afterBacktick_append hclosing hne
    rw [packageHere?, hlead]
    dsimp only [Option.map_some]
    rw [hopened, htake, hdrop, hclosed, if_pos]
    rw [Bool.and_eq_true]
    exact ⟨(isName_iff.mp hname).1, List.isPrefixOf_iff_prefix.mpr (List.prefix_append _ rest)⟩

/-! ### The first place -/

theorem not_saysNotFound_nil : ¬ SaysNotFound [] name := by
  rintro ⟨initial, opening, closing, rest, -, -, -, -, hnil⟩
  cases hnil

theorem namedPackage?_eq_some_iff : namedPackage? t = some name ↔ FirstNamed t name := by
  induction t with
  | nil =>
    constructor
    · intro h
      cases h
    · rintro ⟨before, after, hsplit, hsays, -⟩
      obtain ⟨-, rfl⟩ := List.append_eq_nil_iff.mp hsplit.symm
      exact absurd hsays not_saysNotFound_nil
  | cons c rest ih =>
    rw [namedPackage?]
    cases hhere : packageHere? (c :: rest) with
    | some found =>
      have hsays := packageHere?_eq_some_iff.mp hhere
      constructor
      · intro h
        obtain rfl := Option.some.inj h
        exact ⟨[], c :: rest, rfl, hsays, fun before' _ _ _ _ => Nat.zero_le before'.length⟩
      · rintro ⟨before, after, hsplit, hname, hfirst⟩
        have hnil : before = [] := List.length_eq_zero_iff.mp
          (Nat.le_zero.mp (hfirst [] (c :: rest) found rfl hsays))
        rw [hnil, List.nil_append] at hsplit
        rw [← hsplit, ← packageHere?_eq_some_iff, hhere] at hname
        exact hname
    | none =>
      have hquiet (name : Text) : ¬ SaysNotFound (c :: rest) name := by
        rw [← packageHere?_eq_some_iff, hhere]
        nofun
      change namedPackage? rest = some name ↔ _
      rw [ih]
      constructor
      · rintro ⟨before, after, rfl, hname, hfirst⟩
        refine ⟨c :: before, after, rfl, hname, ?_⟩
        intro before' after' name' hsplit hname'
        cases before' with
        | nil =>
          rw [List.nil_append] at hsplit
          exact absurd (hsplit ▸ hname') (hquiet name')
        | cons d before' =>
          obtain ⟨-, hrest⟩ := List.cons.inj hsplit
          exact Nat.succ_le_succ (hfirst before' after' name' hrest hname')
      · rintro ⟨before, after, hsplit, hname, hfirst⟩
        cases before with
        | nil =>
          rw [List.nil_append] at hsplit
          exact absurd (hsplit ▸ hname) (hquiet name)
        | cons d before =>
          obtain ⟨rfl, hrest⟩ := List.cons.inj hsplit
          refine ⟨before, after, hrest, hname, ?_⟩
          intro before' after' name' hsplit' hname'
          have hle := hfirst (c :: before') after' name' (congrArg (c :: ·) hsplit') hname'
          exact Nat.le_of_succ_le_succ hle

/-- The search comes to nothing if and only if the words are nowhere in the text. -/
theorem isSome_namedPackage?_iff : (namedPackage? t).isSome = true ↔
    ∃ before after name, t = before ++ after ∧ SaysNotFound after name := by
  constructor
  · intro h
    obtain ⟨name, hname⟩ := Option.isSome_iff_exists.mp h
    obtain ⟨before, after, hsplit, hsays, -⟩ := namedPackage?_eq_some_iff.mp hname
    exact ⟨before, after, name, hsplit, hsays⟩
  · rintro ⟨before, after, name, rfl, hsays⟩
    induction before with
    | nil =>
      rw [List.nil_append]
      have hhere := packageHere?_eq_some_iff.mpr hsays
      cases after with
      | nil => exact absurd hsays not_saysNotFound_nil
      | cons c rest =>
        rw [namedPackage?, hhere]
        rfl
    | cons c before ih =>
      rw [List.cons_append, namedPackage?]
      cases packageHere? (c :: (before ++ after)) with
      | some found => rfl
      | none => exact ih

end JuliaLookup.Complaint
