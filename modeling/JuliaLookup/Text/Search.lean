import JuliaLookup.Text.Basic

/-!
# Searching and cutting texts

Occurrences of one text in another, and the pieces between separators.
-/

namespace JuliaLookup.Text

/-- Whether `needle` occurs in a text, at any position. -/
def occursIn (needle : Text) : (t : Text) → Bool
  | [] => needle.isEmpty
  | c :: rest => needle.isPrefixOf (c :: rest) || occursIn needle rest

theorem occursIn_iff {needle t : Text} : needle.occursIn t = true ↔ needle <:+: t := by
  induction t with
  | nil => simp [occursIn]
  | cons c rest ih => simp [occursIn, ih, List.infix_cons_iff]

/-- What follows the head of `t` that equals `lead`. -/
def after? : (lead : Text) → (t : Text) → Option Text
  | [], t => some t
  | _ :: _, [] => none
  | a :: lead, c :: t => if a = c then after? lead t else none

theorem after?_eq_some_iff {lead t rest : Text} : after? lead t = some rest ↔ t = lead ++ rest := by
  induction lead generalizing t with
  | nil => simp [after?]
  | cons a lead ih =>
    cases t with
    | nil => simp [after?]
    | cons c t =>
      by_cases h : a = c
      · simp [after?, h, ih]
      · simp [after?, h, Ne.symm h]

/-- The pieces of `t` around every occurrence of `sep`, in order. There is always at least one. -/
def pieces (sep : CodePoint) : Text → List Text
  | [] => [[]]
  | c :: rest =>
    if c = sep then [] :: pieces sep rest
    else match pieces sep rest with
      | [] => [[c]]
      | piece :: others => (c :: piece) :: others

theorem pieces_ne_nil (sep : CodePoint) (t : Text) : pieces sep t ≠ [] := by
  cases t with
  | nil => simp [pieces]
  | cons c rest =>
    simp only [pieces]
    split
    · simp
    · split <;> simp

/-- What stands before and after the first occurrence of `sep`. -/
def cutAt? (sep : Text) : Text → Option (Text × Text)
  | [] => if sep.isEmpty then some ([], []) else none
  | c :: rest =>
    match after? sep (c :: rest) with
    | some after => some ([], after)
    | none => (cutAt? sep rest).map fun (before, after) => (c :: before, after)

/-- The pieces of `t` around the occurrences of `sep`, read from the left. No more than `cuts` of them
count. -/
def cut (sep : Text) : (cuts : Nat) → (t : Text) → List Text
  | 0, t => [t]
  | cuts + 1, t =>
    match cutAt? sep t with
    | none => [t]
    | some (piece, rest) => piece :: cut sep cuts rest

/-- The texts in order with `sep` between neighbours. -/
def join (sep : Text) (parts : List Text) : Text := List.intercalate sep parts

end JuliaLookup.Text
