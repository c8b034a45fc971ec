import Mathlib.Data.List.Induction
import Mathlib.Tactic.Tauto

/-!
# What holds since

A history is a list of what happened, in order. `Since ends h x` says that `x` happened in `h` and that
nothing which `ends` it has happened since. The statement goes forward step by step (`since_concat`), a
history that is told in more detail keeps it (`since_flatMap`), and where something of a kind holds on
there is a last of its kind (`Since.exists_last`).
-/

namespace JuliaLookup

variable {α β : Type} {ends ends' : α → Prop} {h later : List α} {x y : α}

/-- Something happened, and nothing that ends it has happened since. -/
def Since (ends : α → Prop) (h : List α) (x : α) : Prop :=
  ∃ earlier later, h = earlier ++ x :: later ∧ ∀ y ∈ later, ¬ ends y

theorem not_since_nil : ¬ Since ends [] x := by
  rintro ⟨earlier, later, hnil, -⟩
  exact List.append_ne_nil_of_right_ne_nil earlier (List.cons_ne_nil x later) hnil.symm

theorem since_cons : Since ends (y :: h) x ↔ (x = y ∧ ∀ z ∈ h, ¬ ends z) ∨ Since ends h x := by
  constructor
  · rintro ⟨earlier, later, hsplit, hlater⟩
    cases earlier with
    | nil =>
      obtain ⟨rfl, rfl⟩ := List.cons.inj hsplit
      exact .inl ⟨rfl, hlater⟩
    | cons z earlier => exact .inr ⟨earlier, later, (List.cons.inj hsplit).2, hlater⟩
  · rintro (⟨rfl, hrest⟩ | ⟨earlier, later, rfl, hlater⟩)
    · exact ⟨[], h, rfl, hrest⟩
    · exact ⟨y :: earlier, later, rfl, hlater⟩

theorem since_append : Since ends (h ++ later) x ↔
    Since ends later x ∨ (Since ends h x ∧ ∀ y ∈ later, ¬ ends y) := by
  induction h with
  | nil => simp [not_since_nil]
  | cons z h ih =>
    rw [List.cons_append, since_cons, since_cons, ih]
    simp only [List.mem_append, or_imp, forall_and]
    tauto

theorem since_singleton : Since ends [y] x ↔ x = y := by
  simp [since_cons, not_since_nil]

/-- What one more step does: it is what happened last, or what held before still holds. -/
theorem since_concat : Since ends (h ++ [y]) x ↔ x = y ∨ (Since ends h x ∧ ¬ ends y) := by
  rw [since_append, since_singleton]
  simp

theorem Since.mem (hx : Since ends h x) : x ∈ h := by
  obtain ⟨earlier, later, rfl, -⟩ := hx
  exact List.mem_append_right _ List.mem_cons_self

/-- What is ended by less holds on. -/
theorem Since.mono (hx : Since ends h x) (himp : ∀ y, ends' y → ends y) : Since ends' h x := by
  obtain ⟨earlier, later, rfl, hlater⟩ := hx
  exact ⟨earlier, later, rfl, fun y hy hends => hlater y hy (himp y hends)⟩

/-- What never happens ends nothing. -/
theorem Since.or_of_forall_not (hx : Since ends h x) (hnever : ∀ y ∈ h, ¬ ends' y) :
    Since (fun y => ends y ∨ ends' y) h x := by
  obtain ⟨earlier, later, rfl, hlater⟩ := hx
  refine ⟨earlier, later, rfl, fun y hy hends => ?_⟩
  rcases hends with hends | hends
  · exact hlater y hy hends
  · exact hnever y (List.mem_append_right _ (List.mem_cons_of_mem x hy)) hends

/-- A history told in more detail: what holds since a detail holds since the step that it belongs to. -/
theorem since_flatMap {detail : β → List α} {h : List β} : Since ends (h.flatMap detail) x ↔
    ∃ y, Since (fun z => ∃ w ∈ detail z, ends w) h y ∧ Since ends (detail y) x := by
  induction h using List.reverseRecOn with
  | nil => simp [not_since_nil]
  | append_singleton h z ih =>
    rw [List.flatMap_append, since_append, ih, List.flatMap_singleton]
    constructor
    · rintro (hz | ⟨⟨y, hy, hx⟩, hquiet⟩)
      · exact ⟨z, since_concat.mpr (.inl rfl), hz⟩
      · refine ⟨y, since_concat.mpr (.inr ⟨hy, ?_⟩), hx⟩
        rintro ⟨w, hw, hends⟩
        exact hquiet w hw hends
    · rintro ⟨y, hy, hx⟩
      rcases since_concat.mp hy with rfl | ⟨hy, hquiet⟩
      · exact .inl hx
      · exact .inr ⟨⟨y, hy, hx⟩, fun w hw hends => hquiet ⟨w, hw, hends⟩⟩

/-- Where something of a kind holds on, so does the last of its kind. It is the same, or comes after it in
the order of the history. -/
theorem Since.exists_last (kind : α → Prop) {before : α → α → Prop} (hx : Since ends h x)
    (hkind : kind x) (horder : h.Pairwise before) :
    ∃ y, kind y ∧ (y = x ∨ before x y) ∧ Since (fun z => ends z ∨ kind z) h y := by
  -- from the end of the history: the last step is of the kind, or the one before it holds on over it
  induction h using List.reverseRecOn with
  | nil => exact absurd hx not_since_nil
  | append_singleton h z ih =>
    obtain ⟨horder, -, hlast⟩ := List.pairwise_append.mp horder
    rcases since_concat.mp hx with rfl | ⟨hx, hquiet⟩
    · exact ⟨x, hkind, .inl rfl, since_concat.mpr (.inl rfl)⟩
    · by_cases hz : kind z
      · have hxz : before x z := hlast x hx.mem z (List.mem_singleton_self z)
        exact ⟨z, hz, .inr hxz, since_concat.mpr (.inl rfl)⟩
      · obtain ⟨y, hy, hxy, hsince⟩ := ih hx horder
        exact ⟨y, hy, hxy, since_concat.mpr (.inr ⟨hsince, not_or.mpr ⟨hquiet, hz⟩⟩)⟩

end JuliaLookup
