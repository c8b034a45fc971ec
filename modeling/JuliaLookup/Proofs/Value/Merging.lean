import JuliaLookup.Proofs.Request.Rephrasing
import JuliaLookup.Value.Merge
import Mathlib.Data.List.Induction
import Mathlib.Data.List.Nodup

/-!
# Merged entries

What is found under a name once entries are laid over one another: what is above, merged with what is
below, and what is below where nothing is above. No name comes to occur twice on the way.
-/

namespace JuliaLookup

/-- An object is merged; any other value replaces what is below it. -/
theorem Value.over_of_ne_object {low high : Value} (h : ∀ fields, high ≠ .object fields) :
    Value.over low high = high := by
  cases high with
  | object fields => exact absurd rfl (h fields)
  | _ => simp only [Value.over]

namespace Entries

variable {name other : Text} {v w : Value} {entries low high added : Entries} {e : Text × Value}

theorem get?_eq_none_iff : entries.get? name = none ↔ name ∉ entries.names := by
  induction entries with
  | nil => exact ⟨fun _ => List.not_mem_nil, fun _ => rfl⟩
  | cons e rest ih =>
    obtain ⟨n, v⟩ := e
    rw [names, List.map_cons, List.mem_cons, not_or, ← names, ← ih]
    by_cases hn : n = name
    · simp [hn]
    · rw [get?_cons_of_ne hn]
      simp [Ne.symm hn]

/-! ### Insertion -/

theorem insert_of_not_mem (h : name ∉ entries.names) : insert name v entries = entries ++ [(name, v)] := by
  induction entries with
  | nil => rfl
  | cons e rest ih =>
    obtain ⟨n, w⟩ := e
    rw [names, List.map_cons, List.mem_cons, not_or] at h
    rw [insert, if_neg (Ne.symm h.1), ih h.2]
    rfl

theorem names_insert_of_mem (h : name ∈ entries.names) : (insert name v entries).names = entries.names := by
  induction entries with
  | nil => cases h
  | cons e rest ih =>
    obtain ⟨n, w⟩ := e
    by_cases hn : n = name
    · rw [insert, if_pos hn, names, names, List.map_cons, List.map_cons, hn]
    · have hrest : name ∈ names rest := by
        rcases List.mem_cons.mp h with hname | hrest
        · exact absurd hname.symm hn
        · exact hrest
      rw [insert, if_neg hn, names, List.map_cons, ← names, ih hrest]
      rfl

theorem nodup_names_insert (h : entries.names.Nodup) (name : Text) (v : Value) :
    (insert name v entries).names.Nodup := by
  by_cases hname : name ∈ entries.names
  · rwa [names_insert_of_mem hname]
  · rw [insert_of_not_mem hname, names, List.map_append, List.nodup_append]
    refine ⟨h, List.nodup_singleton name, ?_⟩
    rintro n hn m hm rfl
    obtain rfl := List.mem_singleton.mp hm
    exact hname hn

theorem insertAll_concat (entries added : Entries) (e : Text × Value) :
    entries.insertAll (added ++ [e]) = insert e.1 e.2 (entries.insertAll added) := by
  rw [insertAll, List.foldl_concat, ← insertAll]

theorem nodup_names_insertAll (h : entries.names.Nodup) (added : Entries) :
    (entries.insertAll added).names.Nodup := by
  induction added using List.reverseRecOn with
  | nil => exact h
  | append_singleton added e ih =>
    rw [insertAll_concat]
    exact nodup_names_insert ih e.1 e.2

/-- The last entry inserted under a name counts. -/
theorem get?_insertAll (entries added : Entries) (name : Text) :
    (entries.insertAll added).get? name =
      (((added.filter (·.1 = name)).getLast?).map Prod.snd <|> entries.get? name) := by
  induction added using List.reverseRecOn with
  | nil => rfl
  | append_singleton added e ih =>
    obtain ⟨n, v⟩ := e
    rw [insertAll_concat, List.filter_append]
    by_cases hn : n = name
    · subst hn
      simp
    · rw [get?_insert_of_ne hn, ih]
      simp [hn]

/-- Entries without a name twice are kept as they are. -/
theorem insertAll_nil_of_nodup (h : added.names.Nodup) : insertAll [] added = added := by
  induction added using List.reverseRecOn with
  | nil => rfl
  | append_singleton added e ih =>
    rw [names, List.map_append, List.nodup_append] at h
    have hnew : e.1 ∉ names added := fun hmem => h.2.2 _ hmem _ (List.mem_singleton_self _) rfl
    rw [insertAll_concat, ih h.1, insert_of_not_mem hnew]

theorem mem_of_mem_insert (h : e ∈ insert name v entries) : e = (name, v) ∨ e ∈ entries := by
  induction entries with
  | nil => exact .inl (List.mem_singleton.mp h)
  | cons d rest ih =>
    obtain ⟨n, w⟩ := d
    rw [insert] at h
    split at h
    · exact (List.mem_cons.mp h).imp_right (List.mem_cons_of_mem _)
    · rcases List.mem_cons.mp h with rfl | h
      · exact .inr List.mem_cons_self
      · exact (ih h).imp_right (List.mem_cons_of_mem _)

theorem mem_of_mem_insertAll (h : e ∈ insertAll [] added) : e ∈ added := by
  induction added using List.reverseRecOn with
  | nil => cases h
  | append_singleton added d ih =>
    rw [insertAll_concat] at h
    rcases mem_of_mem_insert h with rfl | h
    · exact List.mem_append_right _ (List.mem_singleton_self d)
    · exact List.mem_append_left _ (ih h)

/-! ### Merging -/

theorem nodup_names_over (h : low.names.Nodup) (high : Entries) : (low.over high).names.Nodup := by
  induction high generalizing low with
  | nil => rwa [Entries.over]
  | cons e rest ih =>
    obtain ⟨name, v⟩ := e
    rw [Entries.over]
    exact ih (nodup_names_insert h name _)

/-- What is above is merged with what is below. -/
theorem get?_over (h : high.names.Nodup) (low : Entries) (name : Text) :
    (low.over high).get? name =
      match high.get? name, low.get? name with
      | some v, some w => some (Value.over w v)
      | some v, none => some v
      | none, found => found := by
  induction high generalizing low with
  | nil => rw [Entries.over]; rfl
  | cons e rest ih =>
    obtain ⟨n, v⟩ := e
    rw [names, List.map_cons, List.nodup_cons] at h
    rw [Entries.over, ih h.2]
    by_cases hn : n = name
    · subst hn
      have hrest : get? rest n = none := get?_eq_none_iff.mpr h.1
      rw [hrest, get?_cons_self, get?_insert_self]
      cases low.get? n <;> rfl
    · rw [get?_insert_of_ne hn, get?_cons_of_ne hn]

end Entries

end JuliaLookup
