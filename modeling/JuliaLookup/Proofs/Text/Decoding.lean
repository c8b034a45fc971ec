import JuliaLookup.Text.Utf8
import Mathlib.Tactic.SplitIfs

/-!
# What decoding yields

Whatever the bytes, no surrogate comes out of them. A sequence that is left open can still come to the
numbers of one range; the range of every sequence that a byte can begin keeps clear of the surrogates, and
each byte that goes on with the sequence only narrows it.
-/

namespace JuliaLookup.Utf8

variable {p : Lead} {n : Nat} {c : CodePoint}

namespace Lead

/-- The least number that an open sequence can still come to. -/
def least (p : Lead) : Nat := (p.bits * 64 + (p.low - 0x80)) <<< (6 * (p.following - 1))

/-- What the numbers of an open sequence stay below. -/
def bound (p : Lead) : Nat := (p.bits * 64 + (p.high - 0x7F)) <<< (6 * (p.following - 1))

/-- One to three bytes are to come, and no surrogate can come of them. -/
structure Clear (p : Lead) : Prop where
  following_cases : p.following = 1 ∨ p.following = 2 ∨ p.following = 3
  low_ge : 0x80 ≤ p.low
  beside : p.bound ≤ 0xD800 ∨ 0xE000 ≤ p.least

end Lead

theorem isSurrogate_eq_false_iff : c.isSurrogate = false ↔ c.val < 0xD800 ∨ 0xE000 ≤ c.val := by
  have hsurrogate : c.isSurrogate = true ↔ 0xD800 ≤ c.val ∧ c.val ≤ 0xDFFF := by
    simp [CodePoint.isSurrogate]
  rw [← Bool.not_eq_true, hsurrogate]
  omega

theorem isSurrogate_replacement : replacement.isSurrogate = false := by decide

/-- A number that is no surrogate gives a point that is none, and so does a number past all points. -/
theorem isSurrogate_point (hn : n < 0xD800 ∨ 0xE000 ≤ n) : (point n).isSurrogate = false := by
  unfold point
  split
  · exact isSurrogate_eq_false_iff.mpr hn
  · exact isSurrogate_replacement

/-- A byte can only begin a sequence that keeps clear of the surrogates. -/
theorem clear_of_lead? (h : lead? n = some p) : p.Clear := by
  unfold lead? at h
  split_ifs at h with h2 hE0 hED hE hF0 hF4 hF
  all_goals
    obtain rfl := Option.some.inj h
    refine ⟨by simp, by simp, ?_⟩
    simp only [Lead.bound, Lead.least, Nat.shiftLeft_eq, Nat.reduceSub, Nat.reduceMul, Nat.reducePow]
    omega

/-- Going on with a sequence narrows its range. -/
theorem Lead.Clear.next (hp : p.Clear) (hmore : 1 < p.following) (hlow : p.low ≤ n) (hhigh : n ≤ p.high) :
    Clear { following := p.following - 1, bits := p.bits * 64 + (n - 0x80) } := by
  obtain ⟨hcases, hge, hbeside⟩ := hp
  have hleast : p.bits * 64 + (p.low - 0x80) ≤ p.bits * 64 + (n - 0x80) := by omega
  have hbound : p.bits * 64 + (n - 0x80) + 1 ≤ p.bits * 64 + (p.high - 0x7F) := by omega
  rw [Lead.bound, Lead.least] at hbeside
  generalize p.bits * 64 + (n - 0x80) = bits at hleast hbound ⊢
  generalize p.bits * 64 + (p.low - 0x80) = least at hleast hbeside
  generalize p.bits * 64 + (p.high - 0x7F) = bound at hbound hbeside
  rcases hcases with hf | hf | hf
  · omega
  · rw [hf] at hbeside ⊢
    refine ⟨.inl rfl, Nat.le_refl _, ?_⟩
    simp only [Lead.bound, Lead.least, Nat.shiftLeft_eq, Nat.reduceSub, Nat.reduceMul,
      Nat.reducePow] at hbeside ⊢
    omega
  · rw [hf] at hbeside ⊢
    refine ⟨.inr (.inl rfl), Nat.le_refl _, ?_⟩
    simp only [Lead.bound, Lead.least, Nat.shiftLeft_eq, Nat.reduceSub, Nat.reduceMul,
      Nat.reducePow] at hbeside ⊢
    omega

/-- The last byte of a sequence completes a number of its range. -/
theorem Lead.Clear.last (hp : p.Clear) (hlast : p.following ≤ 1) (hlow : p.low ≤ n) (hhigh : n ≤ p.high) :
    (point (p.bits * 64 + (n - 0x80))).isSurrogate = false := by
  obtain ⟨hcases, hge, hbeside⟩ := hp
  have hf : p.following = 1 := by omega
  simp only [Lead.bound, Lead.least, Nat.shiftLeft_eq, hf] at hbeside
  refine isSurrogate_point ?_
  omega

/-! ### Byte by byte -/

/-- What a byte yields and leaves open keeps clear of the surrogates. -/
def KeepsClear (result : Text × Option Lead) : Prop :=
  (∀ c ∈ result.1, c.isSurrogate = false) ∧ ∀ p, result.2 = some p → p.Clear

theorem keepsClear_first (n : Nat) : KeepsClear (first n) := by
  unfold first
  split_ifs with hascii
  · have hpoint : (point n).isSurrogate = false := isSurrogate_point (by omega)
    exact ⟨by simpa using hpoint, nofun⟩
  · cases hlead : lead? n with
    | some p =>
      refine ⟨nofun, fun q hq => ?_⟩
      obtain rfl := Option.some.inj hq
      exact clear_of_lead? hlead
    | none => exact ⟨by simpa using isSurrogate_replacement, nofun⟩

theorem keepsClear_step {pending : Option Lead} (h : ∀ p, pending = some p → p.Clear) (n : Nat) :
    KeepsClear (step pending n) := by
  cases pending with
  | none => exact keepsClear_first n
  | some p =>
    have hp : p.Clear := h p rfl
    rw [step]
    split_ifs with hrange hlast
    · exact ⟨by simpa using hp.last hlast hrange.1 hrange.2, nofun⟩
    · refine ⟨nofun, fun q hq => ?_⟩
      obtain rfl := Option.some.inj hq
      exact hp.next (by omega) hrange.1 hrange.2
    · -- the sequence is given up, and the byte starts afresh
      obtain ⟨htext, hopen⟩ := keepsClear_first n
      refine ⟨fun c hc => ?_, hopen⟩
      rcases List.mem_cons.mp hc with rfl | hc
      · exact isSurrogate_replacement
      · exact htext c hc

theorem decodeFrom_cons (pending : Option Lead) (b : UInt8) (bytes : List UInt8) :
    decodeFrom pending (b :: bytes) =
      (step pending b.toNat).1 ++ decodeFrom (step pending b.toNat).2 bytes := by
  cases pending <;> rfl

theorem isSurrogate_of_mem_decodeFrom {pending : Option Lead} {bytes : List UInt8}
    (h : ∀ p, pending = some p → p.Clear) (hc : c ∈ decodeFrom pending bytes) :
    c.isSurrogate = false := by
  induction bytes generalizing pending with
  | nil =>
    cases pending with
    | none => cases hc
    | some p =>
      obtain rfl : c = replacement := List.mem_singleton.mp hc
      exact isSurrogate_replacement
  | cons b rest ih =>
    obtain ⟨htext, hopen⟩ := keepsClear_step h b.toNat
    rw [decodeFrom_cons, List.mem_append] at hc
    rcases hc with hc | hc
    · exact htext c hc
    · exact ih hopen hc

/-- No surrogate comes out of any bytes. -/
theorem isSurrogate_of_mem_decode {bytes : List UInt8} (hc : c ∈ decode bytes) : c.isSurrogate = false := by
  refine isSurrogate_of_mem_decodeFrom (fun p hp => ?_) hc
  cases hp

end JuliaLookup.Utf8
