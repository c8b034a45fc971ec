import JuliaLookup.Proofs.Cache.Entries
import JuliaLookup.Proofs.History.Since
import Mathlib.Algebra.Order.Group.Basic
import Mathlib.Data.Set.Card

/-!
# What a cache holds after any uses

A cache is used by look-ups, by setting keys, by asking whether a key has an entry, and by clearing. What
it holds can be told from its uses alone: a text is `Kept` if it was the last to be set under its key,
nothing has been cleared since, and no look-up of the key has come too late for it. Main statement: after
any uses, whatever the clock showed, the entries of the cache are the texts that are kept.
-/

namespace JuliaLookup.Cache

variable {τ : Type}

/-- A use of a cache. The clock shows `now` where it is read. -/
inductive Use (τ : Type) where
  | get (now : τ) (key : Text)
  | set (now : τ) (key : Text) (value : Value)
  | contains (key : Text)
  | clear

namespace Use

/-- Something takes the place of what stands under a key: a text that is set, or nothing at all. -/
def Replaces (key : Text) : Use τ → Prop
  | set _ k v => k = key ∧ ∃ t, v = .str t
  | clear => True
  | _ => False

/-- A look-up of a key comes too late for what was stored at `s`. -/
def ComesLate [Sub τ] [LT τ] (lifetime : τ) (key : Text) (s : τ) : Use τ → Prop
  | get now k => k = key ∧ lifetime < now - s
  | _ => False

end Use

section Ages

variable [Sub τ] [LT τ]

/-- The text `value` was set under `key` at `s`. Since then nothing has taken its place, and no look-up has
come too late for it. -/
def Kept (lifetime : τ) (uses : List (Use τ)) (key value : Text) (s : τ) : Prop :=
  Since (fun u => u.Replaces key ∨ u.ComesLate lifetime key s) uses (.set s key (.str value))

variable {lifetime s : τ} {uses : List (Use τ)} {key value : Text} {u : Use τ}

theorem not_kept_nil : ¬ Kept lifetime [] key value s := not_since_nil

theorem kept_concat : Kept lifetime (uses ++ [u]) key value s ↔ u = .set s key (.str value) ∨
    (Kept lifetime uses key value s ∧ ¬ u.Replaces key ∧ ¬ u.ComesLate lifetime key s) := by
  rw [Kept, since_concat, not_or, eq_comm]
  rfl

variable [DecidableRel (α := τ) (· < ·)]

/-- The cache after a use. Where a value is no text, setting it fails and leaves the cache as it is. -/
def Use.apply (c : Cache τ) : Use τ → Cache τ
  | get now key => (c.get now key).2
  | set now key value =>
    match c.setValue now key value with
    | .ok c' => c'
    | .error _ => c
  | contains _ => c
  | clear => c.clear

/-- What uses, one after another, make of an empty cache. -/
def after (lifetime : τ) (uses : List (Use τ)) : Cache τ := uses.foldl Use.apply { lifetime }

theorem after_concat (lifetime : τ) (uses : List (Use τ)) (u : Use τ) :
    after lifetime (uses ++ [u]) = u.apply (after lifetime uses) := by
  rw [after, List.foldl_concat, after]

theorem after_append (lifetime : τ) (uses more : List (Use τ)) :
    after lifetime (uses ++ more) = more.foldl Use.apply (after lifetime uses) :=
  List.foldl_append

/-! ### One use -/

variable {c : Cache τ} {e : Entry τ}

/-- A value that is no text is not stored. -/
theorem apply_set (c : Cache τ) (now : τ) (key : Text) (value : Value) :
    (∃ t, value = .str t ∧ (Use.set now key value).apply c = c.set now key t) ∨
      ((∀ t, value ≠ .str t) ∧ (∃ problems, c.setValue now key value = .error problems) ∧
        (Use.set now key value).apply c = c) := by
  cases value with
  | str t => exact .inl ⟨t, rfl, rfl⟩
  | _ => exact .inr ⟨nofun, ⟨_, rfl⟩, rfl⟩

theorem lifetime_apply (u : Use τ) (c : Cache τ) : (u.apply c).lifetime = c.lifetime := by
  cases u with
  | get now key =>
    rcases get_cases c now key with ⟨-, hget⟩ | ⟨e, -, -, hget⟩ | ⟨e, -, -, hget⟩
    · rw [Use.apply, hget]
    · rw [Use.apply, hget]
    · rw [Use.apply, hget]
      rfl
  | set now key value =>
    rcases apply_set c now key value with ⟨t, -, happly⟩ | ⟨-, -, happly⟩
    · rw [happly]
      rfl
    · rw [happly]
  | contains key => rfl
  | clear => rfl

theorem KeysDistinct.apply (h : c.KeysDistinct) (u : Use τ) : (u.apply c).KeysDistinct := by
  cases u with
  | get now key =>
    rcases get_cases c now key with ⟨-, hget⟩ | ⟨e, -, -, hget⟩ | ⟨e, -, -, hget⟩
    · rwa [Use.apply, hget]
    · rwa [Use.apply, hget]
    · rw [Use.apply, hget]
      exact h.erase key
  | set now key value =>
    rcases apply_set c now key value with ⟨t, -, happly⟩ | ⟨-, -, happly⟩
    · rw [happly]
      exact h.set now key t
    · rwa [happly]
  | contains key => exact h
  | clear => exact keysDistinct_clear c

/-- What stands under a key after a use has just been set, or stood there before and was neither replaced
nor found too old. -/
theorem entry?_apply_eq_some_iff : entry? (u.apply c) key = some e ↔
    (u = .set e.storedAt e.key (.str e.value) ∧ e.key = key) ∨
      (c.entry? key = some e ∧ ¬ u.Replaces key ∧ ¬ u.ComesLate c.lifetime key e.storedAt) := by
  cases u with
  | get now k => simp [Use.apply, entry?_get_eq_some_iff, Use.Replaces, Use.ComesLate]
  | set now k v =>
    rcases apply_set c now k v with ⟨t, rfl, happly⟩ | ⟨hno, -, happly⟩
    · have hset : Use.set now k (.str t) = .set e.storedAt e.key (.str e.value) ↔
          e = { key := k, value := t, storedAt := now } := by
        obtain ⟨key', value', storedAt'⟩ := e
        simp only [Use.set.injEq, Value.str.injEq, Entry.mk.injEq]
        tauto
      have hnew : e = { key := k, value := t, storedAt := now } ∧ k = key ↔
          e = { key := k, value := t, storedAt := now } ∧ e.key = key :=
        and_congr_right fun he => by rw [he]
      rw [happly, entry?_set_eq_some_iff, hset, hnew]
      simp [Use.Replaces, Use.ComesLate]
    · rw [happly]
      simp [Use.Replaces, Use.ComesLate, hno]
  | contains k => simp [Use.apply, Use.Replaces, Use.ComesLate]
  | clear => simp [Use.apply, Use.Replaces]

/-! ### Any uses -/

theorem lifetime_after (lifetime : τ) (uses : List (Use τ)) :
    (after lifetime uses).lifetime = lifetime := by
  induction uses using List.reverseRecOn with
  | nil => rfl
  | append_singleton uses u ih => rw [after_concat, lifetime_apply, ih]

theorem keysDistinct_after (lifetime : τ) (uses : List (Use τ)) : (after lifetime uses).KeysDistinct := by
  induction uses using List.reverseRecOn with
  | nil => exact List.nodup_nil
  | append_singleton uses u ih =>
    rw [after_concat]
    exact ih.apply u

/-- The entries after any uses are the texts that are kept. -/
theorem entry?_after_eq_some_iff : entry? (after lifetime uses) key = some e ↔
    Kept lifetime uses key e.value e.storedAt ∧ e.key = key := by
  induction uses using List.reverseRecOn with
  | nil =>
    constructor
    · intro he
      cases he
    · rintro ⟨hkept, -⟩
      exact absurd hkept not_kept_nil
  | append_singleton uses u ih =>
    rw [after_concat, entry?_apply_eq_some_iff, ih, kept_concat, lifetime_after]
    constructor
    · rintro (⟨hset, rfl⟩ | ⟨⟨hkept, rfl⟩, hstays⟩)
      · exact ⟨.inl hset, rfl⟩
      · exact ⟨.inr ⟨hkept, hstays⟩, rfl⟩
    · rintro ⟨hset | ⟨hkept, hstays⟩, rfl⟩
      · exact .inl ⟨hset, rfl⟩
      · exact .inr ⟨⟨hkept, rfl⟩, hstays⟩

theorem exists_entry?_after_iff : (∃ e, entry? (after lifetime uses) key = some e) ↔
    ∃ value s, Kept lifetime uses key value s := by
  constructor
  · rintro ⟨e, he⟩
    exact ⟨e.value, e.storedAt, (entry?_after_eq_some_iff.mp he).1⟩
  · rintro ⟨value, s, hkept⟩
    exact ⟨{ key, value, storedAt := s }, entry?_after_eq_some_iff.mpr ⟨hkept, rfl⟩⟩

/-- A look-up finds the text that is kept, unless it comes too late for it. -/
theorem value?_find_after {now : τ} : ((after lifetime uses).find now key).value? = some value ↔
    ∃ s, Kept lifetime uses key value s ∧ ¬ lifetime < now - s := by
  rw [value?_find_eq_some_iff, lifetime_after]
  constructor
  · rintro ⟨e, he, rfl, hage⟩
    exact ⟨e.storedAt, (entry?_after_eq_some_iff.mp he).1, hage⟩
  · rintro ⟨s, hkept, hage⟩
    exact ⟨{ key, value, storedAt := s }, entry?_after_eq_some_iff.mpr ⟨hkept, rfl⟩, rfl, hage⟩

/-- There are as many entries as keys under which a text is kept. -/
theorem size_after (lifetime : τ) (uses : List (Use τ)) :
    (after lifetime uses).size = Set.ncard {key | ∃ value s, Kept lifetime uses key value s} := by
  have hkeys : {key | ∃ value s, Kept lifetime uses key value s} =
      ((after lifetime uses).entries.map Entry.key).toFinset := by
    ext key
    rw [Set.mem_ofPred_eq, ← exists_entry?_after_iff, ← contains_iff, contains, List.any_eq_true]
    simp
  rw [hkeys, Set.ncard_coe_finset, List.toFinset_card_of_nodup (keysDistinct_after lifetime uses),
    List.length_map, size]

/-- What a look-up gives and does after any uses: the text that is kept, unless it comes too late for it and
removes it. -/
theorem get_after (lifetime : τ) (uses : List (Use τ)) (now : τ) (key : Text) :
    (∃ value s, Kept lifetime uses key value s ∧ ¬ lifetime < now - s ∧
        (after lifetime uses).get now key = (.live value, after lifetime uses)) ∨
      (∃ value s, Kept lifetime uses key value s ∧ lifetime < now - s ∧
        (after lifetime uses).get now key = (.expired, (after lifetime uses).erase key)) ∨
      ((∀ value s, ¬ Kept lifetime uses key value s) ∧
        (after lifetime uses).get now key = (.absent, after lifetime uses)) := by
  have hlifetime := lifetime_after lifetime uses
  rcases get_cases (after lifetime uses) now key with
    ⟨hnone, hget⟩ | ⟨e, hentry, hlive, hget⟩ | ⟨e, hentry, hold, hget⟩
  · refine .inr (.inr ⟨fun value s hkept => ?_, hget⟩)
    obtain ⟨e, he⟩ := exists_entry?_after_iff.mpr ⟨value, s, hkept⟩
    rw [hnone] at he
    cases he
  · refine .inl ⟨e.value, e.storedAt, (entry?_after_eq_some_iff.mp hentry).1, fun hlate => ?_, hget⟩
    rw [isExpired_iff.mpr (by rwa [hlifetime])] at hlive
    cases hlive
  · refine .inr (.inl ⟨e.value, e.storedAt, (entry?_after_eq_some_iff.mp hentry).1, ?_, hget⟩)
    rw [← hlifetime]
    exact isExpired_iff.mp hold

/-- What a cache does can be told from its uses, however the clock moves. A key has an entry if and only if
a text is kept under it, and `contains` says so and changes nothing. There are as many entries as such keys.
A look-up gives the text that is kept unless it comes too late for it, and nothing otherwise; only in coming
too late does it change anything, and it removes that one key. A text is always stored, and a value that is
no text never is: setting it fails and leaves everything as it was. -/
theorem after_tells_kept (lifetime : τ) (uses : List (Use τ)) (now : τ) (key : Text) :
    let c := after lifetime uses
    (c.contains key = true ↔ ∃ value s, Kept lifetime uses key value s) ∧
      after lifetime (uses ++ [.contains key]) = c ∧
      c.size = Set.ncard {key | ∃ value s, Kept lifetime uses key value s} ∧
      ((∃ value s, Kept lifetime uses key value s ∧ ¬ lifetime < now - s ∧
          c.get now key = (.live value, c)) ∨
        (∃ value s, Kept lifetime uses key value s ∧ lifetime < now - s ∧
          c.get now key = (.expired, { c with entries := c.entries.filter (·.key != key) })) ∨
        ((∀ value s, ¬ Kept lifetime uses key value s) ∧ c.get now key = (.absent, c))) ∧
      ∀ value, (∃ t, value = .str t ∧ c.setValue now key value = .ok (c.set now key t)) ∨
        ((∀ t, value ≠ .str t) ∧ (∃ problems, c.setValue now key value = .error problems) ∧
          after lifetime (uses ++ [.set now key value]) = c) := by
  refine ⟨contains_iff.trans exists_entry?_after_iff, after_concat lifetime uses _,
    size_after lifetime uses, get_after lifetime uses now key, fun value => ?_⟩
  rcases apply_set (after lifetime uses) now key value with ⟨t, rfl, -⟩ | ⟨hno, hfails, happly⟩
  · exact .inl ⟨t, rfl, rfl⟩
  · exact .inr ⟨hno, hfails, (after_concat lifetime uses _).trans happly⟩

end Ages

section Clock

variable [AddCommGroup τ] [LinearOrder τ] [IsOrderedAddMonoid τ] {lifetime now s : τ}
  {uses : List (Use τ)} {key value : Text}

/-- Where the clock has not gone back, no look-up so far came too late for a text that is young enough now.
It is kept as long as nothing takes its place. -/
theorem kept_iff_of_le (hclock : ∀ t k, .get t k ∈ uses → t ≤ now) (hyoung : now - s ≤ lifetime) :
    Kept lifetime uses key value s ↔ Since (·.Replaces key) uses (.set s key (.str value)) := by
  have hnever : ∀ u ∈ uses, ¬ u.ComesLate lifetime key s := by
    intro u hu hlate
    cases u with
    | get t k =>
      have hage : t - s ≤ lifetime := (sub_le_sub_right (hclock t k hu) s).trans hyoung
      exact hage.not_gt hlate.2
    | set t k v => exact hlate
    | contains k => exact hlate
    | clear => exact hlate
  exact ⟨fun hkept => hkept.mono fun u hu => .inl hu, fun hset => hset.or_of_forall_not hnever⟩

end Clock

end JuliaLookup.Cache
