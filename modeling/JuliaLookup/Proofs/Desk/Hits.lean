import JuliaLookup.Proofs.Desk.Records
import Mathlib.Algebra.Order.Group.Int

/-!
# When a call is answered from the cache

Visits come to a desk one after another, and the clock does not go back. Then a call can be told to be
answered from the cache by looking at the past alone: its request has been run with success since
everything was dropped the last time, and not too long ago.
-/

namespace JuliaLookup.Desk

variable {τ : Type}

/-- Since everything was dropped the last time, a request was run and came to a text, stored at `s`. -/
def RanSinceClear (past : List (Record τ)) (request : Request) (text : Text) (s : τ) : Prop :=
  ∃ x, x.Ran request text s ∧ Since (fun y => y.visit = .clear) past x

/-- And since then it has not been run with success again. -/
def RanLast (past : List (Record τ)) (request : Request) (text : Text) (s : τ) : Prop :=
  ∃ x, x.Ran request text s ∧ Since (fun y => y.visit = .clear ∨ ∃ t r, y.Ran request t r) past x

variable {request : Request} {given : Entries} {text : Text} {s now : τ} {x : Record τ}
  {past : List (Record τ)}

/-! ### The past -/

theorem ranLast_concat : RanLast (past ++ [x]) request text s ↔ x.Ran request text s ∨
    (RanLast past request text s ∧ x.visit ≠ .clear ∧ ∀ t r, ¬ x.Ran request t r) := by
  simp only [RanLast, since_concat, not_or, not_exists]
  constructor
  · rintro ⟨y, hran, rfl | ⟨hsince, hquiet⟩⟩
    · exact .inl hran
    · exact .inr ⟨⟨y, hran, hsince⟩, hquiet⟩
  · rintro (hran | ⟨⟨y, hran, hsince⟩, hquiet⟩)
    · exact ⟨x, hran, .inl rfl⟩
    · exact ⟨y, hran, .inr ⟨hsince, hquiet⟩⟩

theorem RanLast.ranSinceClear (h : RanLast past request text s) :
    RanSinceClear past request text s := by
  obtain ⟨x, hran, hsince⟩ := h
  exact ⟨x, hran, hsince.mono fun y hy => .inl hy⟩

/-- Among the runs since everything was dropped there is a last one, and where the clock does not go back
its text is no older than the others. -/
theorem RanSinceClear.exists_ranLast [Preorder τ] (h : RanSinceClear past request text s)
    (hclock : (past.flatMap fun y => y.visit.readings).Pairwise (· ≤ ·)) :
    ∃ t r, RanLast past request t r ∧ s ≤ r := by
  obtain ⟨x, hran, hsince⟩ := h
  obtain ⟨y, ⟨t, r, hy⟩, horder, hlast⟩ := hsince.exists_last (fun y => ∃ t r, y.Ran request t r)
    ⟨text, s, hran⟩ (List.pairwise_flatMap.mp hclock).2
  rcases horder with rfl | horder
  · exact ⟨text, s, ⟨y, hran, hlast⟩, le_refl s⟩
  · exact ⟨t, r, ⟨y, hy, hlast⟩, horder s hran.mem_readings r hy.mem_readings⟩

theorem subset_skip (first more : List (Runner × Visit τ)) (skipped : Runner × Visit τ) :
    first ++ more ⊆ first ++ skipped :: more :=
  ((List.sublist_cons_self skipped more).append_left first).subset

section Clock

variable [AddCommGroup τ] [LinearOrder τ] [IsOrderedAddMonoid τ] {lifetime : τ}
  {visits : List (Runner × Visit τ)}

/-- A look-up finds what the request came to when it was last run since everything was dropped, unless that
is too long ago. -/
theorem value?_find_cacheAfter (hreads : request.Reads given)
    (hclock : ∀ t ∈ visits.flatMap (fun v => v.2.readings), t ≤ now) :
    ((cacheAfter lifetime visits).find now request.key).value? = some text ↔
      ∃ s, RanLast (records lifetime visits) request text s ∧ now - s ≤ lifetime := by
  rw [cacheAfter_eq_after, Cache.value?_find_after]
  refine exists_congr fun s => ?_
  rw [not_lt]
  refine and_congr_left fun hyoung => ?_
  -- no look-up on record came later than now, so none found a text too old that is young enough now
  have hgets : ∀ t key, .get t key ∈ (records lifetime visits).flatMap Record.uses → t ≤ now := by
    intro t key hget
    obtain ⟨x, hx, hget⟩ := List.mem_flatMap.mp hget
    refine hclock t ?_
    rw [← readings_records lifetime visits]
    exact List.mem_flatMap.mpr ⟨x, hx, mem_readings_of_get_mem_uses hget⟩
  rw [Cache.kept_iff_of_le hgets hyoung, since_flatMap, RanLast]
  simp only [Record.exists_replaces_iff hreads, Record.since_uses_iff hreads]
  exact exists_congr fun x => and_comm

/-- Visits can be left out where the last run of the request stays the same. -/
theorem value?_find_eq_of_ranLast (hreads : request.Reads given) {fewer : List (Runner × Visit τ)}
    (hfewer : fewer ⊆ visits) (hclock : ∀ t ∈ visits.flatMap (fun v => v.2.readings), t ≤ now)
    (hlast : ∀ text s, RanLast (records lifetime visits) request text s ↔
      RanLast (records lifetime fewer) request text s) :
    ((cacheAfter lifetime visits).find now request.key).value? =
      ((cacheAfter lifetime fewer).find now request.key).value? := by
  have hclock' : ∀ t ∈ fewer.flatMap (fun v => v.2.readings), t ≤ now := by
    intro t ht
    obtain ⟨v, hv, ht⟩ := List.mem_flatMap.mp ht
    exact hclock t (List.mem_flatMap.mpr ⟨v, hfewer hv, ht⟩)
  refine Option.ext fun text => ?_
  rw [value?_find_cacheAfter hreads hclock, value?_find_cacheAfter hreads hclock']
  exact exists_congr fun s => and_congr_left fun _ => hlast text s

/-- A visit that neither drops everything nor runs the request with success can be left out: the last run
of the request stays the same, also among the visits after it. -/
theorem ranLast_skip_iff (hreads : request.Reads given) {first more : List (Runner × Visit τ)}
    {skipped : Runner × Visit τ} (hclear : skipped.2 ≠ .clear)
    (hskipped : ∀ t r, ¬ Record.Ran request t r
      { visit := skipped.2, turn := skipped.2.turn skipped.1 (cacheAfter lifetime first) })
    (hclock : ((first ++ skipped :: more).flatMap fun v => v.2.readings).Pairwise (· ≤ ·)) :
    ∀ text s, RanLast (records lifetime (first ++ skipped :: more)) request text s ↔
      RanLast (records lifetime (first ++ more)) request text s := by
  induction more using List.reverseRecOn with
  | nil =>
    intro text s
    rw [records_concat, ranLast_concat, List.append_nil]
    simp [hclear, hskipped]
  | append_singleton more v ih =>
    intro text s
    rw [← List.cons_append, ← List.append_assoc, List.flatMap_append, List.flatMap_singleton,
      List.pairwise_append] at hclock
    obtain ⟨hbefore, -, hlast⟩ := hclock
    have hsame := ih hbefore
    -- the last visit finds the same with and without the one that is left out, so it runs the same
    have hfind : ∀ t ∈ v.2.readings,
        ((cacheAfter lifetime (first ++ skipped :: more)).find t request.key).value? =
          ((cacheAfter lifetime (first ++ more)).find t request.key).value? := fun t ht =>
      value?_find_eq_of_ranLast hreads (subset_skip first more skipped) (fun u hu => hlast u hu t ht) hsame
    rw [← List.cons_append, ← List.append_assoc, ← List.append_assoc, records_concat, records_concat,
      ranLast_concat, ranLast_concat, hsame]
    simp only [Record.ran_turn_iff v.2 hfind]

/-- The look-up finds something if and only if some run since everything was dropped is recent enough: the
last of them is no older. -/
theorem exists_value?_find_iff (lifetime : τ) (hreads : request.Reads given)
    (hclock : (visits.flatMap fun v => v.2.readings).Pairwise (· ≤ ·))
    (hnow : ∀ t ∈ visits.flatMap (fun v => v.2.readings), t ≤ now) :
    (∃ text, ((cacheAfter lifetime visits).find now request.key).value? = some text) ↔
      ∃ text s, RanSinceClear (records lifetime visits) request text s ∧ now - s ≤ lifetime := by
  constructor
  · rintro ⟨text, htext⟩
    obtain ⟨s, hlast, hyoung⟩ := (value?_find_cacheAfter hreads hnow).mp htext
    exact ⟨text, s, hlast.ranSinceClear, hyoung⟩
  · rintro ⟨text, s, hran, hyoung⟩
    rw [← readings_records lifetime visits] at hclock
    obtain ⟨t, r, hlast, hsr⟩ := hran.exists_ranLast hclock
    have hyoung' : now - r ≤ lifetime := (sub_le_sub_left hsr now).trans hyoung
    exact ⟨t, (value?_find_cacheAfter hreads hnow).mpr ⟨r, hlast, hyoung'⟩⟩

/-- When a call is answered from the cache, at a desk that began with an empty cache and whose clock does
not go back. The call is answered so, and nothing is run for it, if and only if its request has been run
with success since everything was dropped the last time, and not longer ago than the lifetime; the text is
what the last such run came to. So a request is never run again within the lifetime of its text. A visit
that neither drops everything nor runs the request with success has no part in this: without it, the call
would have been answered alike. -/
theorem call_hits_iff (lifetime : τ) (earlier : List (Runner × Visit τ)) (runner : Runner) {now later : τ}
    {operation : Value} {given : Entries} {request : Request}
    (hclock : (earlier.flatMap (fun v => v.2.readings) ++ [now, later]).Pairwise (· ≤ ·))
    (hcall : Request.ofCall operation given = .ok request) :
    let past := records lifetime earlier
    let turn := call runner now later operation given (cacheAfter lifetime earlier)
    ((∃ a, turn.reply = .answer a ∧ a.cached = true) ↔
        ∃ text s, RanSinceClear past request text s ∧ now - s ≤ lifetime) ∧
      (turn.run = none ↔ ∃ text s, RanSinceClear past request text s ∧ now - s ≤ lifetime) ∧
      (∀ a, turn.reply = .answer a → a.cached = true →
        ∃ s, RanLast past request a.text s ∧ now - s ≤ lifetime) ∧
      (∀ text s, RanSinceClear past request text s → turn.run ≠ none →
        lifetime < now - s ∧ lifetime < later - s) ∧
      ∀ first skipped more, earlier = first ++ skipped :: more → skipped.2 ≠ .clear →
        (∀ t r, ¬ Record.Ran request t r
          { visit := skipped.2, turn := skipped.2.turn skipped.1 (cacheAfter lifetime first) }) →
        let turn' := call runner now later operation given (cacheAfter lifetime (first ++ more))
        turn'.reply = turn.reply ∧ turn'.run = turn.run := by
  obtain ⟨-, hreads⟩ := Request.ofCall_eq_ok_iff.mp hcall
  obtain ⟨hbefore, hreadings, hlast⟩ := List.pairwise_append.mp hclock
  have hnow : ∀ t ∈ earlier.flatMap (fun v => v.2.readings), t ≤ now :=
    fun t ht => hlast t ht now List.mem_cons_self
  have hle : now ≤ later := by simpa using hreadings
  have hrecent := exists_value?_find_iff lifetime hreads hbefore hnow
  intro past turn
  obtain ⟨hcached, hidle⟩ := call_cached_iff runner now later (cacheAfter lifetime earlier) hcall
  refine ⟨hcached.trans hrecent, hidle.trans hrecent, ?_, ?_, ?_⟩
  · intro a hreply hhit
    obtain ⟨text, hfind⟩ := hcached.mp ⟨a, hreply, hhit⟩
    obtain ⟨hanswer, -⟩ := call_of_found runner now later hcall hfind
    cases hreply.symm.trans hanswer
    exact (value?_find_cacheAfter hreads hnow).mp hfind
  · intro text s hran hrun
    have hold : lifetime < now - s :=
      not_le.mp fun hyoung => hrun (hidle.mpr (hrecent.mpr ⟨text, s, hran, hyoung⟩))
    exact ⟨hold, hold.trans_le (sub_le_sub_right hle s)⟩
  · rintro first skipped more rfl hclear hskipped
    have hsame := ranLast_skip_iff hreads hclear hskipped hbefore
    have hfind := value?_find_eq_of_ranLast hreads (subset_skip first more skipped) hnow hsame
    have hserve := serve_eq_call runner now later (cacheAfter lifetime (first ++ more)) hcall
    rw [← hfind, serve_eq_call runner now later _ hcall] at hserve
    exact Prod.mk.inj hserve.symm

/-- A text as old as the lifetime is still found, though a call to another tool has failed meanwhile. -/
theorem call_hits_at_lifetime :
    let runner : Runner := fun _ => { outcome := .done "source" }
    let broken : Runner := fun _ => { outcome := .cancelled }
    let earlier : List (Runner × Visit ℤ) :=
      [(runner, .call 0 1 "get-source" (.object [("path", " Base.sort")])),
        (broken, .call 2 3 "get-doc" (.object [("path", "Base.sort")]))]
    let turn := call broken 11 12 "get-source" [("path", "Base.sort")] (cacheAfter 10 earlier)
    turn.run = none ∧ ∃ a, turn.reply = .answer a ∧ a.cached = true := by
  intro runner broken earlier turn
  let request : Request := { tool := .getSource, path := "Base.sort" }
  have hcall : Request.ofCall "get-source" [("path", "Base.sort")] = .ok request := rfl
  have hclock : ((earlier.flatMap fun v : Runner × Visit ℤ => v.2.readings) ++ [11, 12]).Pairwise
      (· ≤ ·) := by decide
  obtain ⟨hcached, hidle, -⟩ := call_hits_iff 10 earlier broken hclock hcall
  have hran : RanSinceClear (records 10 earlier) request "source" 1 := by
    refine ⟨_, ⟨0, _, _, rfl, rfl, rfl⟩, [], _, rfl, fun y hy hclear => ?_⟩
    obtain rfl := List.mem_singleton.mp hy
    cases hclear
  have hyoung : (11 : ℤ) - 1 ≤ 10 := by decide
  exact ⟨hidle.mpr ⟨"source", 1, hran, hyoung⟩, hcached.mpr ⟨"source", 1, hran, hyoung⟩⟩

end Clock

end JuliaLookup.Desk
