import Mathlib.Data.List.Pairwise
import JuliaLookup.Proofs.Script.Fragments
import JuliaLookup.Script

/-!
# How programs begin and end

A filled template begins with its first fragment and ends with its last, whatever the filling is. So two
templates whose first or last fragments differ at a place that both have never fill to the same text, and
any two programs are told apart in this way: `View.apart`, `View.apart_project`. Within a program that has
a slot, the text tells the filling: `Template.fill_injective`.
-/

namespace JuliaLookup

namespace Text

variable {s t u : Text}

/-- Neither text begins with the other: they differ at a place that both have. -/
def Diverge (s t : Text) : Prop := ¬ s <+: t ∧ ¬ t <+: s

instance (s t : Text) : Decidable (Diverge s t) := inferInstanceAs (Decidable (_ ∧ _))

theorem Diverge.symm (h : Diverge s t) : Diverge t s := ⟨h.2, h.1⟩

/-- No text begins with both. -/
theorem Diverge.not_prefix (h : Diverge s t) (hs : s <+: u) : ¬ t <+: u := by
  intro ht
  rcases List.prefix_or_prefix_of_prefix hs ht with hst | hts
  · exact h.1 hst
  · exact h.2 hts

end Text

namespace Template

variable {s t : Template}

/-- What stands before the first slot. -/
def opening (t : Template) : Text := t.fragments.head t.fragments_ne_nil

/-- What stands after the last slot. -/
def closing (t : Template) : Text := t.fragments.getLast t.fragments_ne_nil

theorem opening_prefix (t : Template) (filling : Text) : t.opening <+: t.fill filling := by
  obtain ⟨more, hmore⟩ := Text.exists_join_cons filling t.opening t.fragments.tail
  rw [opening, List.cons_head_tail, ← fill_eq_join] at hmore
  exact ⟨more, hmore.symm⟩

theorem closing_suffix (t : Template) (filling : Text) : t.closing <:+ t.fill filling := by
  obtain ⟨more, hmore⟩ := Text.exists_join_concat filling t.fragments.dropLast t.closing
  rw [closing, List.dropLast_append_getLast, ← fill_eq_join] at hmore
  exact ⟨more, hmore.symm⟩

/-- The openings differ, read forwards, or the closings, read backwards. -/
def Apart (s t : Template) : Prop :=
  Text.Diverge s.opening t.opening ∨ Text.Diverge s.closing.reverse t.closing.reverse

instance (s t : Template) : Decidable (Apart s t) := inferInstanceAs (Decidable (_ ∨ _))

theorem Apart.symm (h : Apart s t) : Apart t s := h.imp Text.Diverge.symm Text.Diverge.symm

/-- Templates that are apart never fill to the same text. -/
theorem Apart.fill_ne (h : Apart s t) (p q : Text) : s.fill p ≠ t.fill q := by
  intro heq
  rcases h with hopening | hclosing
  · refine hopening.not_prefix (s.opening_prefix p) ?_
    rw [heq]
    exact t.opening_prefix q
  · refine hclosing.not_prefix (List.reverse_prefix.mpr (s.closing_suffix p)) ?_
    rw [heq]
    exact List.reverse_prefix.mpr (t.closing_suffix q)

/-! ### The filling -/

/-- Fillings of one length are read off at the first slot. -/
theorem eq_of_fill_eq {p q : Text} (hslot : .slot ∈ t) (hlength : p.length = q.length)
    (h : t.fill p = t.fill q) : p = q := by
  induction t with
  | nil => cases hslot
  | cons piece rest ih =>
    rw [fill_cons, fill_cons] at h
    cases piece with
    | slot => exact (List.append_inj h hlength).1
    | fixed t =>
      have hrest : .slot ∈ rest := by simpa using hslot
      exact ih hrest (List.append_cancel_left h)

/-- A template with a slot fills to different texts for different fillings. -/
theorem fill_injective (hslot : .slot ∈ t) : Function.Injective t.fill := by
  intro p q h
  have hlength : t.count .slot * p.length = t.count .slot * q.length := by
    have hlength_fill := measure_fill List.length (fun _ _ => List.length_append) t
    have hsame := congrArg List.length h
    rw [hlength_fill p, hlength_fill q] at hsame
    exact Nat.add_left_cancel hsame
  have hcount : 0 < t.count .slot := List.count_pos_iff.mpr hslot
  exact eq_of_fill_eq hslot (Nat.eq_of_mul_eq_mul_left hcount hlength) h

end Template

/-! ### The programs -/

namespace View

/-- Every view there is. -/
def every : List View :=
  [.signatures, .documentation, .everything, .unexported, .members false, .members true, .source]

theorem mem_every (v : View) : v ∈ every := by
  rcases v with _ | _ | _ | _ | (_ | _) | _ <;> decide

theorem slot_mem (v : View) : .slot ∈ v.template := by
  have hall : ∀ v ∈ every, Piece.slot ∈ v.template := by decide +kernel
  exact hall v v.mem_every

theorem pairwise_apart : every.Pairwise fun v w => v.template.Apart w.template := by
  -- what is shown of modules begins alike each time, and differs in how it ends
  decide +kernel

/-- No text is a program of two views. -/
theorem apart {v w : View} (h : v ≠ w) : v.template.Apart w.template := by
  have hsymm : Std.Symm fun v w : View => v.template.Apart w.template :=
    ⟨fun _ _ => Template.Apart.symm⟩
  exact pairwise_apart.forall v.mem_every w.mem_every h

theorem apart_project (v : View) : v.template.Apart Catalog.project := by
  have hall : ∀ v ∈ every, v.template.Apart Catalog.project := by decide +kernel
  exact hall v v.mem_every

end View

namespace Query

/-- The template of a question. -/
def template : Query → Template
  | symbol _ view _ => view.template
  | project _ => Catalog.project

/-- What is put into the slots of it. -/
def filling : Query → Text
  | symbol _ _ path => path
  | project directory => StringLiteral.write directory

/-- A script is its import, if any, above its filled template. -/
theorem text_script (q : Query) :
    q.script.text = importLine q.script.package ++ q.template.fill q.filling := by
  cases q with
  | symbol tool view path => rfl
  | project directory => exact (List.nil_append _).symm

/-- No program begins as an import does. -/
theorem not_import_prefix (q : Query) : ¬ ("import " : Text) <+: q.template.fill q.filling := by
  have hdiverge : Text.Diverge q.template.opening "import " := by
    cases q with
    | symbol tool view path =>
      have hall : ∀ v ∈ View.every, Text.Diverge v.template.opening "import " := by decide +kernel
      exact hall view view.mem_every
    | project directory =>
      show Text.Diverge Catalog.project.opening "import "
      decide +kernel
  exact hdiverge.not_prefix (q.template.opening_prefix q.filling)

theorem import_prefix_importLine (package below : Text) :
    ("import " : Text) <+: importLine (some package) ++ below := by
  rw [importLine, List.append_assoc, List.append_assoc]
  exact List.prefix_append _ _

/-- So a script begins as an import does if and only if it imports a package. -/
theorem import_prefix_iff (q : Query) :
    ("import " : Text) <+: q.script.text ↔ q.script.package ≠ none := by
  rw [text_script]
  cases q.script.package with
  | none =>
    rw [importLine, List.nil_append]
    exact ⟨fun h => absurd h q.not_import_prefix, fun h => absurd rfl h⟩
  | some package => exact ⟨fun _ => nofun, fun _ => import_prefix_importLine package _⟩

end Query

end JuliaLookup
