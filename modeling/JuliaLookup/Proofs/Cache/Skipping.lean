import JuliaLookup.Proofs.Cache.Uses
import Mathlib.Algebra.Order.Group.Int

/-!
# Uses that can be skipped

A look-up removes the entry that it finds too old, so a cache that has been asked more may hold less. No later
look-up can tell: where the clock does not go back, what is too old once is too old for good. A run is compared
with the run that skips some of its steps. `course_filter` is the induction over both runs; between the two
caches holds `Alike` where only questions are skipped, and `SameUnder` where only uses of other keys are. Main
statement: `course_skip`.
-/

namespace JuliaLookup.Cache

variable {τ : Type}

namespace Use

/-- The readings of the clock at a use. -/
def readings : Use τ → List τ
  | get now _ => [now]
  | set now _ _ => [now]
  | _ => []

/-- Whether a use only asks: what stands under a key, or whether anything does. -/
def asks : Use τ → Bool
  | get _ _ => true
  | contains _ => true
  | _ => false

/-- The key of a use. Clearing has none. -/
def key? : Use τ → Option Text
  | get _ key => some key
  | set _ key _ => some key
  | contains key => some key
  | clear => none

/-- Whether a use is a look-up of a key. -/
def looksUp (key : Text) : Use τ → Bool
  | get _ k => k == key
  | _ => false

end Use

/-- A use in a row of uses, and whether it stays when others are skipped. -/
structure Step (τ : Type) where
  use : Use τ
  stays : Bool

/-- The readings of the clock in the course of some steps. -/
def readings (steps : List (Step τ)) : List τ := steps.flatMap fun step => step.use.readings

variable {steps : List (Step τ)} {c c' : Cache τ} {u : Use τ} {key value : Text} {t : τ} {times : List τ}

section Ages

variable [Sub τ] [LT τ] [DecidableRel (α := τ) (· < ·)]

/-! ### Runs with and without some steps -/

/-- The text that a use gives: what a look-up finds, if it finds something. -/
def Use.gives (c : Cache τ) : Use τ → Option Text
  | get now key => (c.get now key).1.value?
  | _ => none

/-- Steps one after another, each with the text that its use gives. -/
def course : List (Step τ) → Cache τ → List (Step τ × Option Text)
  | [], _ => []
  | step :: rest, c => (step, step.use.gives c) :: course rest (step.use.apply c)

/-- A run and the run that skips some of its steps give the same where they are looked at, if something holds
between the two caches that is kept by a use of both and by a use that is skipped in one. -/
theorem course_filter (seen : Use τ → Bool) {R : List (Step τ) → Cache τ → Cache τ → Prop}
    (hboth : ∀ {step rest c c'}, R (step :: rest) c c' → step.stays = true →
      R rest (step.use.apply c) (step.use.apply c') ∧
        (seen step.use = true → step.use.gives c = step.use.gives c'))
    (hone : ∀ {step rest c c'}, R (step :: rest) c c' → step.stays = false →
      R rest (step.use.apply c) c')
    (h : R steps c c') :
    (course (steps.filter Step.stays) c').filter (fun x => seen x.1.use) =
      (course steps c).filter fun x => x.1.stays && seen x.1.use := by
  induction steps generalizing c c' with
  | nil => rfl
  | cons step rest ih =>
    cases hstays : step.stays with
    | false =>
      rw [List.filter_cons_of_neg (by simp [hstays]), ih (hone h hstays), course,
        List.filter_cons_of_neg (by simp [hstays])]
    | true =>
      obtain ⟨hrest, hsame⟩ := hboth h hstays
      rw [List.filter_cons_of_pos hstays, course, course]
      cases hseen : seen step.use with
      | false =>
        rw [List.filter_cons_of_neg (by simp [hseen]), ih hrest,
          List.filter_cons_of_neg (by simp [hseen])]
      | true =>
        rw [List.filter_cons_of_pos (by simp [hseen]), ih hrest, ← hsame hseen,
          List.filter_cons_of_pos (by simp [hstays, hseen])]

/-! ### Uses of other keys -/

/-- Two caches hold the same under a key. -/
structure SameUnder (key : Text) (c c' : Cache τ) : Prop where
  lifetime_eq : c.lifetime = c'.lifetime
  entry_eq : c.entry? key = c'.entry? key

theorem SameUnder.apply (h : SameUnder key c c') (u : Use τ) : SameUnder key (u.apply c) (u.apply c') := by
  refine ⟨by rw [lifetime_apply, lifetime_apply, h.lifetime_eq], Option.ext fun e => ?_⟩
  rw [entry?_apply_eq_some_iff, entry?_apply_eq_some_iff, h.entry_eq, h.lifetime_eq]

/-- What stands under a key is no concern of uses of other keys. -/
theorem entry?_apply_of_ne {k : Text} (hkey : u.key? = some k) (hne : k ≠ key) (c : Cache τ) :
    entry? (u.apply c) key = c.entry? key := by
  cases u with
  | get now k' =>
    cases hkey
    refine Option.ext fun e => ?_
    simp [Use.apply, entry?_get_eq_some_iff, hne]
  | set now k' v =>
    cases hkey
    rcases apply_set c now k v with ⟨t, -, happly⟩ | ⟨-, -, happly⟩
    · rw [happly, entry?_set_of_ne (Ne.symm hne)]
    · rw [happly]
  | contains k' => rfl
  | clear => cases hkey

theorem SameUnder.skip {k : Text} (h : SameUnder key c c') (hkey : u.key? = some k) (hne : k ≠ key) :
    SameUnder key (u.apply c) c' :=
  ⟨(lifetime_apply u c).trans h.lifetime_eq, (entry?_apply_of_ne hkey hne c).trans h.entry_eq⟩

theorem SameUnder.gives_eq (h : SameUnder key c c') (hlook : u.looksUp key = true) :
    u.gives c = u.gives c' := by
  cases u with
  | get now k =>
    obtain rfl : k = key := by simpa [Use.looksUp] using hlook
    refine Option.ext fun value => ?_
    rw [Use.gives, Use.gives, get_fst, get_fst, value?_find_eq_some_iff, value?_find_eq_some_iff,
      h.entry_eq, h.lifetime_eq]
  | _ => cases hlook

/-- What look-ups of a key give does not depend on uses of other keys, however the clock moves. -/
theorem course_skip_of_ne (hother : ∀ step ∈ steps, step.stays = false →
      ∃ k, step.use.key? = some k ∧ k ≠ key) (c : Cache τ) :
    (course (steps.filter Step.stays) c).filter (fun x => x.1.use.looksUp key) =
      (course steps c).filter fun x => x.1.stays && x.1.use.looksUp key := by
  refine course_filter (Use.looksUp key) (R := fun steps c c' => SameUnder key c c' ∧
    ∀ step ∈ steps, step.stays = false → ∃ k, step.use.key? = some k ∧ k ≠ key) ?_ ?_ ⟨⟨rfl, rfl⟩, hother⟩
  · rintro step rest c c' ⟨hsame, hother⟩ -
    exact ⟨⟨hsame.apply step.use, fun s hs => hother s (List.mem_cons_of_mem step hs)⟩, hsame.gives_eq⟩
  · rintro step rest c c' ⟨hsame, hother⟩ hstays
    obtain ⟨k, hkey, hne⟩ := hother step List.mem_cons_self hstays
    exact ⟨hsame.skip hkey hne, fun s hs => hother s (List.mem_cons_of_mem step hs)⟩

/-! ### Questions -/

/-- Look-ups at some times find the same in two caches. -/
structure Alike (times : List τ) (c c' : Cache τ) : Prop where
  lifetime_eq : c.lifetime = c'.lifetime
  find_eq : ∀ t ∈ times, ∀ key, (c.find t key).value? = (c'.find t key).value?

theorem Alike.mono {fewer : List τ} (h : Alike times c c') (hsub : fewer ⊆ times) : Alike fewer c c' :=
  ⟨h.lifetime_eq, fun t ht => h.find_eq t (hsub ht)⟩

theorem Alike.gives_eq (h : Alike times c c') (hread : u.readings ⊆ times) : u.gives c = u.gives c' := by
  cases u with
  | get now k =>
    rw [Use.gives, Use.gives, get_fst, get_fst, h.find_eq now (hread List.mem_cons_self)]
  | _ => rfl

end Ages

section Clock

variable [AddCommGroup τ] [LinearOrder τ] [IsOrderedAddMonoid τ]

/-- What a look-up finds after a use that came no later: a text that has just been set, or what it would
have found without the use, unless something has taken its place. An entry that the use found too old, the
look-up finds too old as well. -/
theorem value?_find_apply (hread : ∀ s ∈ u.readings, s ≤ t) :
    (find (u.apply c) t key).value? = some value ↔
      (∃ s, u = .set s key (.str value) ∧ ¬ c.lifetime < t - s) ∨
        ((c.find t key).value? = some value ∧ ¬ u.Replaces key) := by
  rw [value?_find_eq_some_iff, value?_find_eq_some_iff, lifetime_apply]
  constructor
  · rintro ⟨e, hentry, rfl, hage⟩
    rcases entry?_apply_eq_some_iff.mp hentry with ⟨hset, rfl⟩ | ⟨hentry, hstays, -⟩
    · exact .inl ⟨e.storedAt, hset, hage⟩
    · exact .inr ⟨⟨e, hentry, rfl, hage⟩, hstays⟩
  · rintro (⟨s, hset, hage⟩ | ⟨⟨e, hentry, rfl, hage⟩, hstays⟩)
    · exact ⟨{ key, value, storedAt := s }, entry?_apply_eq_some_iff.mpr (.inl ⟨hset, rfl⟩), rfl, hage⟩
    · refine ⟨e, entry?_apply_eq_some_iff.mpr (.inr ⟨hentry, hstays, fun hlate => hage ?_⟩), rfl, hage⟩
      cases u with
      | get now k =>
        have hnow : now ≤ t := hread now List.mem_cons_self
        exact hlate.2.trans_le (sub_le_sub_right hnow e.storedAt)
      | _ => cases hlate

/-- Caches stay alike under a use of both that comes before the times. -/
theorem Alike.apply (h : Alike times c c') (hread : ∀ s ∈ u.readings, ∀ t ∈ times, s ≤ t) :
    Alike times (u.apply c) (u.apply c') := by
  refine ⟨by rw [lifetime_apply, lifetime_apply, h.lifetime_eq], fun t ht key => ?_⟩
  refine Option.ext fun value => ?_
  have hread : ∀ s ∈ u.readings, s ≤ t := fun s hs => hread s hs t ht
  rw [value?_find_apply hread, value?_find_apply hread, h.find_eq t ht, h.lifetime_eq]

/-- And under a question that only one of them is asked. -/
theorem Alike.skip (h : Alike times c c') (hread : ∀ s ∈ u.readings, ∀ t ∈ times, s ≤ t)
    (hasks : u.asks = true) : Alike times (u.apply c) c' := by
  refine ⟨(lifetime_apply u c).trans h.lifetime_eq, fun t ht key => ?_⟩
  refine Option.ext fun value => ?_
  rw [value?_find_apply fun s hs => hread s hs t ht, h.find_eq t ht]
  cases u with
  | get now k => simp [Use.Replaces]
  | contains k => simp [Use.Replaces]
  | set now k v => cases hasks
  | clear => cases hasks

/-- Where the clock does not go back, what look-ups give does not depend on the questions before them. -/
theorem course_skip_of_asks (hclock : (readings steps).Pairwise (· ≤ ·))
    (hasks : ∀ step ∈ steps, step.stays = false → step.use.asks = true) (c : Cache τ) :
    course (steps.filter Step.stays) c = (course steps c).filter fun x => x.1.stays := by
  have hall : (course (steps.filter Step.stays) c).filter (fun _ => true) =
      (course steps c).filter fun x => x.1.stays && true := by
    refine course_filter (fun _ => true) (R := fun steps c c' => Alike (readings steps) c c' ∧
      (readings steps).Pairwise (· ≤ ·) ∧ ∀ step ∈ steps, step.stays = false → step.use.asks = true)
      ?_ ?_ ⟨⟨rfl, fun _ _ _ => rfl⟩, hclock, hasks⟩
    · rintro step rest c c' ⟨halike, hclock, hasks⟩ -
      obtain ⟨-, hrest, hbefore⟩ := List.pairwise_append.mp hclock
      have hlater := (halike.mono (List.subset_append_right _ _)).apply (u := step.use) hbefore
      exact ⟨⟨hlater, hrest, fun s hs => hasks s (List.mem_cons_of_mem step hs)⟩,
        fun _ => halike.gives_eq (List.subset_append_left _ _)⟩
    · rintro step rest c c' ⟨halike, hclock, hasks⟩ hstays
      obtain ⟨-, hrest, hbefore⟩ := List.pairwise_append.mp hclock
      have hlater := (halike.mono (List.subset_append_right _ _)).skip (u := step.use) hbefore
        (hasks step List.mem_cons_self hstays)
      exact ⟨hlater, hrest, fun s hs => hasks s (List.mem_cons_of_mem step hs)⟩
  simpa using hall

/-- Whatever a cache holds and however long its entries live, no look-up can tell which questions came before
it. If any look-ups, and any questions whether a key has an entry, are skipped in a run in which the clock does
not go back, every use that stays gives what it gave before. And if any uses of other keys are skipped, clearing
apart, every look-up of a key that stays gives what it gave before, also where the clock does go back. -/
theorem course_skip (c : Cache τ) (steps : List (Step τ)) :
    ((readings steps).Pairwise (· ≤ ·) →
        (∀ step ∈ steps, step.stays = false → step.use.asks = true) →
        course (steps.filter Step.stays) c = (course steps c).filter fun x => x.1.stays) ∧
      ∀ key, (∀ step ∈ steps, step.stays = false → ∃ k, step.use.key? = some k ∧ k ≠ key) →
        (course (steps.filter Step.stays) c).filter (fun x => x.1.use.looksUp key) =
          (course steps c).filter fun x => x.1.stays && x.1.use.looksUp key :=
  ⟨fun hclock hasks => course_skip_of_asks hclock hasks c, fun _ hother => course_skip_of_ne hother c⟩

/-- Without the look-up that removes it, an entry is still there when it is looked up again. It is found too
old all the same. -/
theorem course_skip_of_removing :
    let steps : List (Step ℤ) := [⟨.set 0 "k" (.str "old"), true⟩, ⟨.get 11 "k", false⟩,
      ⟨.contains "k", false⟩, ⟨.get 12 "k", true⟩, ⟨.set 12 "k" (.str "new"), true⟩, ⟨.get 20 "k", true⟩]
    course (steps.filter Step.stays) { lifetime := 10 } =
        (course steps { lifetime := 10 }).filter (fun x => x.1.stays) ∧
      (course (steps.filter Step.stays) { lifetime := 10 }).map Prod.snd =
        [none, none, none, some ("new" : Text)] ∧
      (after 10 [.set (0 : ℤ) "k" (.str "old"), .get 11 "k"]).contains "k" = false ∧
      (after 10 [.set (0 : ℤ) "k" (.str "old")]).contains "k" = true := by
  intro steps
  have hclock : (readings steps).Pairwise (· ≤ ·) := by decide
  have hasks : ∀ step ∈ steps, step.stays = false → step.use.asks = true := by decide
  exact ⟨(course_skip _ steps).1 hclock hasks, by decide, by decide, by decide⟩

end Clock

end JuliaLookup.Cache
