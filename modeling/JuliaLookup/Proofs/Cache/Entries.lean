import JuliaLookup.Cache
import Mathlib.Data.List.Nodup

/-!
# Entries of a cache

What each operation does to the entries: a look-up removes the one that is too old, setting adds one, and
nothing else comes or goes. Under every other key stands what stood there before, and no key ever has two
entries.
-/

namespace JuliaLookup.Cache

variable {τ : Type} {c : Cache τ} {key other : Text} {e : Entry τ}

theorem mem_of_entry?_eq_some (h : c.entry? key = some e) : e ∈ c.entries ∧ e.key = key := by
  unfold entry? at h
  exact ⟨List.mem_of_find?_eq_some h, by simpa using List.find?_some h⟩

theorem mem_of_mem_erase (h : e ∈ (c.erase key).entries) : e ∈ c.entries :=
  (List.mem_filter.mp h).1

theorem mem_put {new : Entry τ} {entries : List (Entry τ)} (h : e ∈ put new entries) :
    e = new ∨ e ∈ entries := by
  induction entries with
  | nil => exact .inl (List.mem_singleton.mp h)
  | cons d rest ih =>
    rw [put] at h
    split at h
    · rcases List.mem_cons.mp h with h | h
      · exact .inl h
      · exact .inr (List.mem_cons_of_mem d h)
    · rcases List.mem_cons.mp h with rfl | h
      · exact .inr List.mem_cons_self
      · exact (ih h).imp_right (List.mem_cons_of_mem d)

theorem mem_set {now : τ} {value : Text} (h : e ∈ (c.set now key value).entries) :
    e = { key, value, storedAt := now } ∨ e ∈ c.entries := mem_put h

/-! ### The entry under a key -/

theorem contains_iff : c.contains key = true ↔ ∃ e, c.entry? key = some e := by
  rw [contains, entry?, List.any_eq_true, ← Option.isSome_iff_exists, List.find?_isSome]

@[simp] theorem entry?_clear (c : Cache τ) (key : Text) : c.clear.entry? key = none := rfl

@[simp] theorem entry?_erase_self (c : Cache τ) (key : Text) : entry? (c.erase key) key = none := by
  rw [ entry?, erase, List.find?_eq_none]
  intro e he
  simpa using (List.mem_filter.mp he).2

theorem entry?_erase_of_ne (h : other ≠ key) : entry? (c.erase key) other = c.entry? other := by
  rw [ entry?, erase, List.find?_filter]
  congr 1
  funext e
  by_cases he : e.key = other
  · simp [he, h]
  · simp [he]

theorem find?_put_self (new : Entry τ) (entries : List (Entry τ)) :
    (put new entries).find? (·.key == new.key) = some new := by
  induction entries with
  | nil => simp [put]
  | cons d rest ih =>
    rw [put]
    split
    case isTrue hd => simp
    case isFalse hd => simp [hd, ih]

theorem find?_put_of_ne (new : Entry τ) (h : other ≠ new.key) (entries : List (Entry τ)) :
    (put new entries).find? (·.key == other) = entries.find? (·.key == other) := by
  induction entries with
  | nil => simp [put, h.symm]
  | cons d rest ih =>
    rw [put]
    split
    case isTrue hd => simp [hd, h.symm]
    case isFalse hd => rw [List.find?_cons, List.find?_cons, ih]

@[simp] theorem entry?_set_self (c : Cache τ) (now : τ) (key value : Text) :
    entry? (c.set now key value) key = some { key, value, storedAt := now } :=
  find?_put_self { key, value, storedAt := now } c.entries

theorem entry?_set_of_ne (h : other ≠ key) (now : τ) (value : Text) :
    entry? (c.set now key value) other = c.entry? other :=
  find?_put_of_ne { key, value, storedAt := now } h c.entries

theorem entry?_set_eq_some_iff {now : τ} {value : Text} :
    entry? (c.set now key value) other = some e ↔
      (e = { key, value, storedAt := now } ∧ key = other) ∨ (c.entry? other = some e ∧ key ≠ other) := by
  by_cases hkey : key = other
  · subst hkey
    simp [eq_comm]
  · rw [entry?_set_of_ne (Ne.symm hkey)]
    simp [hkey]

/-! ### Distinct keys -/

/-- No two entries stand under one key. -/
def KeysDistinct (c : Cache τ) : Prop := (c.entries.map Entry.key).Nodup

theorem keysDistinct_clear (c : Cache τ) : c.clear.KeysDistinct := List.nodup_nil

theorem KeysDistinct.erase (h : c.KeysDistinct) (key : Text) : (c.erase key).KeysDistinct :=
  h.sublist (List.filter_sublist.map Entry.key)

theorem nodup_put {new : Entry τ} {entries : List (Entry τ)} (h : (entries.map Entry.key).Nodup) :
    ((put new entries).map Entry.key).Nodup := by
  induction entries with
  | nil => exact List.nodup_singleton new.key
  | cons d rest ih =>
    rw [List.map_cons, List.nodup_cons] at h
    rw [put]
    split
    case isTrue hd =>
      rw [List.map_cons, List.nodup_cons, ← hd]
      exact h
    case isFalse hd =>
      rw [List.map_cons, List.nodup_cons]
      refine ⟨fun hmem => ?_, ih h.2⟩
      obtain ⟨e, he, hkey⟩ := List.mem_map.mp hmem
      rcases mem_put he with rfl | he
      · exact hd hkey.symm
      · exact h.1 (List.mem_map.mpr ⟨e, he, hkey⟩)

theorem KeysDistinct.set (h : c.KeysDistinct) (now : τ) (key value : Text) :
    (c.set now key value).KeysDistinct := nodup_put h

/-- Where keys are distinct, every entry is the one under its key. -/
theorem KeysDistinct.entry?_eq_some (h : c.KeysDistinct) (he : e ∈ c.entries) :
    c.entry? e.key = some e := by
  obtain ⟨d, hd⟩ := contains_iff.mp (List.any_eq_true.mpr ⟨e, he, beq_self_eq_true e.key⟩)
  obtain ⟨hmem, hkey⟩ := mem_of_entry?_eq_some hd
  rw [hd, List.inj_on_of_nodup_map h hmem he hkey]

/-- And it is the only one there. -/
theorem filter_key_of_nodup {entries : List (Entry τ)} (h : (entries.map Entry.key).Nodup)
    (hfind : entries.find? (·.key == key) = some e) : entries.filter (·.key == key) = [e] := by
  induction entries with
  | nil => cases hfind
  | cons d rest ih =>
    rw [List.map_cons, List.nodup_cons] at h
    by_cases hd : d.key = key
    · rw [List.find?_cons_of_pos (by simpa using hd)] at hfind
      obtain rfl := Option.some.inj hfind
      have hrest : rest.filter (·.key == key) = [] := by
        rw [List.filter_eq_nil_iff]
        intro x hx hkey
        exact h.1 (List.mem_map.mpr ⟨x, hx, by simpa [hd] using hkey⟩)
      rw [List.filter_cons_of_pos (by simpa using hd), hrest]
    · rw [List.find?_cons_of_neg (by simpa using hd)] at hfind
      rw [List.filter_cons_of_neg (by simpa using hd)]
      exact ih h.2 hfind

/-! ### Without the entry under a key -/

theorem erase_erase (c : Cache τ) (key : Text) : (c.erase key).erase key = c.erase key := by
  simp [erase, List.filter_filter]

theorem filter_put (new : Entry τ) (entries : List (Entry τ)) :
    (put new entries).filter (·.key != new.key) = entries.filter (·.key != new.key) := by
  induction entries with
  | nil => simp [put]
  | cons d rest ih =>
    rw [put]
    split
    case isTrue hd => simp [hd]
    case isFalse hd => simp [hd, ih]

theorem erase_set (c : Cache τ) (now : τ) (key value : Text) :
    (c.set now key value).erase key = c.erase key := by
  rw [erase, erase, set]
  exact congrArg (Cache.mk c.lifetime) (filter_put { key, value, storedAt := now } c.entries)

section Ages

variable [Sub τ] [LT τ] [DecidableRel (α := τ) (· < ·)] {now : τ}

/-- A look-up finds nothing, a live entry, or one that is too old. Only the last changes the cache. -/
theorem get_cases (c : Cache τ) (now : τ) (key : Text) :
    (c.entry? key = none ∧ c.get now key = (.absent, c)) ∨
      (∃ e, c.entry? key = some e ∧ c.isExpired now e = false ∧ c.get now key = (.live e.value, c)) ∨
      (∃ e, c.entry? key = some e ∧ c.isExpired now e = true ∧
        c.get now key = (.expired, c.erase key)) := by
  cases hentry : c.entry? key with
  | none =>
    have hfind : c.find now key = .absent := by rw [find, hentry]
    exact .inl ⟨rfl, by rw [get, hfind]⟩
  | some e =>
    cases hage : c.isExpired now e with
    | false =>
      have hfind : c.find now key = .live e.value := by
        rw [find, hentry]
        simp [hage]
      exact .inr (.inl ⟨e, rfl, hage, by rw [get, hfind]⟩)
    | true =>
      have hfind : c.find now key = .expired := by
        rw [find, hentry]
        simp [hage]
      exact .inr (.inr ⟨e, rfl, hage, by rw [get, hfind]⟩)

theorem get_fst (c : Cache τ) (now : τ) (key : Text) : (c.get now key).1 = c.find now key := by
  rw [get]
  cases c.find now key <;> rfl

theorem isExpired_iff : c.isExpired now e = true ↔ c.lifetime < now - e.storedAt := decide_eq_true_iff

/-- A look-up finds the text of an entry that is not too old. -/
theorem value?_find_eq_some_iff {value : Text} : (c.find now key).value? = some value ↔
    ∃ e, c.entry? key = some e ∧ e.value = value ∧ ¬ c.lifetime < now - e.storedAt := by
  rw [find]
  cases c.entry? key with
  | none => simp [Found.value?]
  | some e =>
    by_cases hold : c.lifetime < now - e.storedAt
    · simp [isExpired, hold, Found.value?]
    · simp [isExpired, hold, Found.value?]

theorem get_of_live (hentry : c.entry? key = some e) (hlive : c.isExpired now e = false) :
    (c.get now key).2 = c := by
  rcases get_cases c now key with ⟨-, hget⟩ | ⟨d, -, -, hget⟩ | ⟨d, hd, hold, -⟩
  · rw [hget]
  · rw [hget]
  · obtain rfl := Option.some.inj (hd.symm.trans hentry)
    rw [hold] at hlive
    cases hlive

/-- A look-up that finds nothing finds no entry, or removes one that is too old. -/
theorem get_of_missed (hmissed : (c.find now key).value? = none) :
    (c.entry? key = none ∧ (c.get now key).2 = c) ∨
      ∃ e, c.entry? key = some e ∧ c.lifetime < now - e.storedAt ∧ (c.get now key).2 = c.erase key := by
  rcases get_cases c now key with ⟨hnone, hget⟩ | ⟨e, hentry, hlive, -⟩ | ⟨e, hentry, hold, hget⟩
  · exact .inl ⟨hnone, by rw [hget]⟩
  · have hfound := value?_find_eq_some_iff.mpr ⟨e, hentry, rfl, by simpa [isExpired] using hlive⟩
    cases hmissed.symm.trans hfound
  · exact .inr ⟨e, hentry, isExpired_iff.mp hold, by rw [hget]⟩

/-- A look-up leaves an entry unless it is the one looked for and too old. -/
theorem entry?_get_eq_some_iff : entry? (c.get now key).2 other = some e ↔
    c.entry? other = some e ∧ ¬ (key = other ∧ c.lifetime < now - e.storedAt) := by
  rcases get_cases c now key with ⟨hnone, hget⟩ | ⟨d, hd, hlive, hget⟩ | ⟨d, hd, hold, hget⟩
  · rw [hget]
    refine ⟨fun he => ⟨he, ?_⟩, And.left⟩
    rintro ⟨rfl, -⟩
    rw [hnone] at he
    cases he
  · rw [hget]
    refine ⟨fun he => ⟨he, ?_⟩, And.left⟩
    rintro ⟨rfl, hlate⟩
    obtain rfl := Option.some.inj (hd.symm.trans he)
    rw [isExpired_iff.mpr hlate] at hlive
    cases hlive
  · rw [hget]
    by_cases hkey : key = other
    · subst hkey
      have hlate := isExpired_iff.mp hold
      rw [entry?_erase_self, hd]
      constructor
      · intro he
        cases he
      · rintro ⟨he, hin⟩
        exact absurd ⟨rfl, Option.some.inj he ▸ hlate⟩ hin
    · rw [entry?_erase_of_ne (Ne.symm hkey)]
      simp [hkey]

theorem erase_get (c : Cache τ) (now : τ) (key : Text) : (c.get now key).2.erase key = c.erase key := by
  rcases get_cases c now key with ⟨-, hget⟩ | ⟨d, -, -, hget⟩ | ⟨d, -, -, hget⟩
  · rw [hget]
  · rw [hget]
  · rw [hget]
    exact erase_erase c key

/-- A look-up adds nothing. -/
theorem mem_of_mem_get (h : e ∈ (c.get now key).2.entries) : e ∈ c.entries := by
  rcases get_cases c now key with ⟨-, hget⟩ | ⟨d, -, -, hget⟩ | ⟨d, -, -, hget⟩
  · rwa [hget] at h
  · rwa [hget] at h
  · rw [hget] at h
    exact mem_of_mem_erase h

end Ages

end JuliaLookup.Cache
