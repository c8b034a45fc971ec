import JuliaLookup.Proofs.Request.Rephrasing
import Mathlib.Data.List.Nodup

/-!
# The order of options in a key

Options are a finite map: no name has two values, and the order in which they are given means nothing. A
key tells them in the order of their names, so it is the same for every order in which they may be given.
Main statement: `key_tells_options_in_order`.
-/

namespace JuliaLookup

namespace Entries

variable {entries entries' : Entries}

theorem sorted_perm (entries : Entries) : entries.sorted.Perm entries := List.mergeSort_perm _ _

/-- No name stands before a lesser one. -/
theorem pairwise_sorted (entries : Entries) : entries.sorted.Pairwise fun a b => a.1 ≤ b.1 := by
  have htrans : ∀ a b c : Text × Value, decide (a.1 ≤ b.1) = true → decide (b.1 ≤ c.1) = true →
      decide (a.1 ≤ c.1) = true := by
    intro a b c hab hbc
    rw [decide_eq_true_eq] at hab hbc ⊢
    exact List.le_trans hab hbc
  have htotal : ∀ a b : Text × Value, (decide (a.1 ≤ b.1) || decide (b.1 ≤ a.1)) = true := by
    intro a b
    rw [Bool.or_eq_true, decide_eq_true_eq, decide_eq_true_eq]
    exact List.le_total a.1 b.1
  exact (List.pairwise_mergeSort htrans htotal entries).imp of_decide_eq_true

/-- Where no name occurs twice, every name stands before greater ones only. -/
theorem pairwise_names_sorted (hnames : entries.names.Nodup) :
    entries.sorted.names.Pairwise (· < ·) := by
  have hdistinct : entries.sorted.names.Nodup :=
    ((sorted_perm entries).map Prod.fst).nodup_iff.mpr hnames
  have hordered : entries.sorted.names.Pairwise (· ≤ ·) :=
    List.pairwise_map.mpr (pairwise_sorted entries)
  exact (hordered.and hdistinct).imp fun h => Std.lt_of_le_of_ne h.1 h.2

/-- Entries are told apart by their names, so one order only is the order of the names. -/
theorem eq_of_perm_of_pairwise (h : entries.Perm entries') (hordered : entries.names.Pairwise (· < ·))
    (hordered' : entries'.names.Pairwise (· < ·)) : entries = entries' := by
  rw [names, List.pairwise_map] at hordered hordered'
  refine h.eq_of_pairwise (fun a b _ _ hab hba => ?_) hordered hordered'
  exact absurd hab (List.lt_asymm hba)

theorem sorted_eq_of_perm (hnames : entries.names.Nodup) (h : entries.Perm entries') :
    entries.sorted = entries'.sorted := by
  have hnames' : entries'.names.Nodup := (h.map Prod.fst).nodup_iff.mp hnames
  have hperm : entries.sorted.Perm entries'.sorted :=
    (sorted_perm entries).trans (h.trans (sorted_perm entries').symm)
  exact eq_of_perm_of_pairwise hperm (pairwise_names_sorted hnames) (pairwise_names_sorted hnames')

/-- Where no name occurs twice, what is found under each name tells the entries up to their order. -/
theorem perm_of_get?_eq (hnames : entries.names.Nodup) (hnames' : entries'.names.Nodup)
    (h : ∀ name, entries.get? name = entries'.get? name) : entries.Perm entries' := by
  refine (List.perm_ext_iff_of_nodup (List.Nodup.of_map Prod.fst hnames)
    (List.Nodup.of_map Prod.fst hnames')).mpr ?_
  rintro ⟨name, v⟩
  constructor
  · intro hmem
    exact mem_of_get?_eq_some ((h name).symm.trans (get?_eq_some_of_mem hnames hmem))
  · intro hmem
    exact mem_of_get?_eq_some ((h name).trans (get?_eq_some_of_mem hnames' hmem))

end Entries

namespace Request

theorem key_eq_of_perm {r : Request} {options : Entries} (hnames : r.options.names.Nodup)
    (h : r.options.Perm options) : key { r with options } = r.key := by
  rw [key, key, Entries.sorted_eq_of_perm hnames h]

/-- Whatever the names and values of the options, one order has every name before the greater ones. The key
tells the options in this order, each once and each value with its name. It is the same key in whatever
order the options are given, and for all options that have the same value under every name. -/
theorem key_tells_options_in_order (r : Request) (hnames : r.options.names.Nodup) :
    (∃! ordered : Entries, ordered.Perm r.options ∧ ordered.names.Pairwise (· < ·)) ∧
      (∀ ordered : Entries, ordered.Perm r.options → ordered.names.Pairwise (· < ·) →
        r.key = Text.join ":" (r.tool.name :: r.path ::
          ordered.map fun option => option.1 ++ "=" ++ keyValue option.2)) ∧
      (∀ options, r.options.Perm options → key { r with options } = r.key) ∧
      ∀ options : Entries, options.names.Nodup →
        (∀ name, r.options.get? name = options.get? name) → key { r with options } = r.key := by
  have hsorted := Entries.pairwise_names_sorted hnames
  have hperm := Entries.sorted_perm r.options
  have hunique : ∀ ordered : Entries, ordered.Perm r.options → ordered.names.Pairwise (· < ·) →
      ordered = r.options.sorted := fun ordered h hordered =>
    Entries.eq_of_perm_of_pairwise (h.trans hperm.symm) hordered hsorted
  refine ⟨⟨r.options.sorted, ⟨hperm, hsorted⟩, ?_⟩, ?_, fun options => key_eq_of_perm hnames, ?_⟩
  · rintro ordered ⟨h, hordered⟩
    exact hunique ordered h hordered
  · intro ordered h hordered
    rw [hunique ordered h hordered]
    rfl
  · intro options hnames' h
    exact key_eq_of_perm hnames (Entries.perm_of_get?_eq hnames hnames' h)

/-- The order is that of the code points: the last name would come before the second in UTF-16. -/
theorem key_tells_options_of_three :
    let options : Entries := [("😀", true),
      ("～", .object [("b", .list [.null, .str "x"]), ("a", .bool false)]), ("detail_level", "all")]
    options.names.Nodup ∧ key { tool := .getDoc, path := "Base.sort", options } =
      "get-doc:Base.sort:detail_level=all:～=\x7b'b': [None, 'x'], 'a': False\x7d:😀=true" := by
  intro options
  have hnames : options.names.Nodup := by decide
  obtain ⟨-, htold, -⟩ :=
    key_tells_options_in_order { tool := .getDoc, path := "Base.sort", options } hnames
  refine ⟨hnames, (htold options.reverse (List.reverse_perm options) ?_).trans ?_⟩
  · decide
  · decide +kernel

end Request

end JuliaLookup
