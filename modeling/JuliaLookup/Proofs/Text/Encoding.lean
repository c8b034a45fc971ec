import JuliaLookup.Proofs.Text.Decoding

/-!
# Bytes there and back

The bytes of a text without surrogates are read as the text, whatever comes after them. Bytes that are read
without a replacement are the bytes of what is read, so nothing else passes for a text. Both rest on what an
open sequence stands for: the numbers that it can still come to are those whose bytes go on after the bytes
read so far.
-/

namespace JuliaLookup.Utf8

variable {p : Lead} {b : UInt8} {n m : Nat} {c : CodePoint} {part bytes : List UInt8}

/-- The last bytes of a number, with six bits in each, the highest first. -/
def tail : (count n : Nat) → List UInt8
  | 0, _ => []
  | count + 1, n => (0x80 + (n >>> (6 * count)) % 64).toUInt8 :: tail count n

theorem tail_one (n : Nat) : tail 1 n = [(0x80 + n % 64).toUInt8] := by
  simp [tail]

theorem tail_two (n : Nat) : tail 2 n = [(0x80 + n / 64 % 64).toUInt8, (0x80 + n % 64).toUInt8] := by
  simp [tail, Nat.shiftRight_eq_div_pow]

theorem tail_three (n : Nat) : tail 3 n =
    [(0x80 + n / 4096 % 64).toUInt8, (0x80 + n / 64 % 64).toUInt8, (0x80 + n % 64).toUInt8] := by
  simp [tail, Nat.shiftRight_eq_div_pow]

theorem toNat_toUInt8 (h : n < 256) : n.toUInt8.toNat = n := by
  simp [Nat.mod_eq_of_lt h]

theorem toUInt8_of_eq_toNat (h : n = b.toNat) : n.toUInt8 = b := by
  rw [h]
  exact UInt8.ofNat_toNat

/-! ### Open sequences -/

namespace Lead

/-- The numbers that an open sequence can still come to. -/
def Covers (p : Lead) (n : Nat) : Prop := p.least ≤ n ∧ n < p.bound

/-- At least one byte is to come, and the bytes that may come next go on with a sequence. -/
structure Proper (p : Lead) : Prop where
  following_pos : 1 ≤ p.following
  low_ge : 0x80 ≤ p.low
  low_le_high : p.low ≤ p.high
  high_le : p.high ≤ 0xBF

/-- The open sequence after one more byte. -/
def next (p : Lead) (n : Nat) : Lead :=
  { following := p.following - 1, bits := p.bits * 64 + (n - 0x80) }

namespace Proper

/-- A number is covered if the bits above those of the later bytes are the bits read so far and those of a
byte that may come next. -/
theorem covers_iff (hp : p.Proper) : p.Covers n ↔
    p.bits * 64 + p.low ≤ n >>> (6 * (p.following - 1)) + 0x80 ∧
      n >>> (6 * (p.following - 1)) + 0x80 ≤ p.bits * 64 + p.high := by
  have hpos : 0 < 2 ^ (6 * (p.following - 1)) := Nat.two_pow_pos _
  have hlow := hp.low_ge
  have hhigh := hp.low_le_high
  rw [Covers, least, bound, Nat.shiftLeft_eq, Nat.shiftLeft_eq, ← Nat.le_div_iff_mul_le hpos,
    ← Nat.div_lt_iff_lt_mul hpos, ← Nat.shiftRight_eq_div_pow]
  omega

/-- The next byte of a number that is covered. -/
theorem digit (hp : p.Proper) (h : p.Covers n) :
    p.low ≤ 0x80 + (n >>> (6 * (p.following - 1))) % 64 ∧
      0x80 + (n >>> (6 * (p.following - 1))) % 64 ≤ p.high := by
  have hlow := hp.low_ge
  have hhigh := hp.high_le
  obtain ⟨hleast, hbound⟩ := hp.covers_iff.mp h
  omega

theorem next (hmore : 1 < p.following) : (p.next m).Proper where
  following_pos := Nat.le_sub_one_of_lt hmore
  low_ge := Nat.le_refl 0x80
  low_le_high := Nat.le_add_right 0x80 0x3F
  high_le := Nat.le_refl 0xBF

/-- A byte picks the numbers that have it next. -/
theorem covers_next_iff (hp : p.Proper) (hmore : 1 < p.following) (hlow : p.low ≤ m)
    (hhigh : m ≤ p.high) :
    (p.next m).Covers n ↔ p.Covers n ∧ m = 0x80 + (n >>> (6 * (p.following - 1))) % 64 := by
  have hlow' := hp.low_ge
  have hhigh' := hp.high_le
  have hbits : 6 * (p.following - 1) = 6 * (p.following - 1 - 1) + 6 := by omega
  rw [(next hmore).covers_iff, hp.covers_iff, hbits, Nat.shiftRight_add]
  show (p.bits * 64 + (m - 0x80)) * 64 + 0x80 ≤ n >>> (6 * (p.following - 1 - 1)) + 0x80 ∧
      n >>> (6 * (p.following - 1 - 1)) + 0x80 ≤ (p.bits * 64 + (m - 0x80)) * 64 + 0xBF ↔ _
  generalize n >>> (6 * (p.following - 1 - 1)) = q
  omega

/-- The last byte leaves one number. -/
theorem covers_last_iff (hp : p.Proper) (hlast : p.following = 1) (hlow : p.low ≤ m)
    (hhigh : m ≤ p.high) :
    n = p.bits * 64 + (m - 0x80) ↔ p.Covers n ∧ m = 0x80 + n % 64 := by
  have hlow' := hp.low_ge
  have hhigh' := hp.high_le
  rw [hp.covers_iff, hlast, Nat.sub_self, Nat.mul_zero, Nat.shiftRight_zero]
  omega

end Proper

/-- The numbers that are covered have the bytes read so far, and go on after them. -/
def After (p : Lead) (part : List UInt8) : Prop :=
  ∀ n, p.Covers n → ∃ h : n < 0x110000, encodePoint ⟨n, h⟩ = part ++ tail p.following n

theorem After.next (hp : p.Proper) (h : p.After part) (hmore : 1 < p.following)
    (hlow : p.low ≤ b.toNat) (hhigh : b.toNat ≤ p.high) : (p.next b.toNat).After (part ++ [b]) := by
  intro n hn
  obtain ⟨hcovers, hdigit⟩ := (hp.covers_next_iff hmore hlow hhigh).mp hn
  obtain ⟨hlt, hbytes⟩ := h n hcovers
  have hfollowing : p.following = (p.following - 1) + 1 := (Nat.sub_add_cancel hp.following_pos).symm
  refine ⟨hlt, ?_⟩
  rw [hbytes, hfollowing, tail, toUInt8_of_eq_toNat hdigit.symm, List.append_assoc]
  rfl

theorem After.last (hp : p.Proper) (h : p.After part) (hlast : p.following = 1)
    (hlow : p.low ≤ b.toNat) (hhigh : b.toNat ≤ p.high) :
    encodePoint (point (p.bits * 64 + (b.toNat - 0x80))) = part ++ [b] := by
  obtain ⟨hcovers, hdigit⟩ := (hp.covers_last_iff hlast hlow hhigh).mp rfl
  obtain ⟨hlt, hbytes⟩ := h _ hcovers
  rw [point, dif_pos hlt, hbytes, hlast, tail_one, toUInt8_of_eq_toNat hdigit.symm]

end Lead

/-! ### First bytes -/

theorem proper_of_lead? (h : lead? n = some p) : p.Proper := by
  unfold lead? at h
  split_ifs at h
  all_goals
    obtain rfl := Option.some.inj h
    exact ⟨by simp, by simp, by simp, by simp⟩

/-- The first byte of a number beyond ASCII, and how many bytes follow it. -/
inductive Begins (m n : Nat) : Nat → Prop
  | two (hlow : 0x80 ≤ n) (hhigh : n < 0x800) (h : 0xC0 + n / 64 = m) : Begins m n 1
  | three (hlow : 0x800 ≤ n) (hhigh : n < 0x10000) (h : 0xE0 + n / 4096 = m) : Begins m n 2
  | four (hlow : 0x10000 ≤ n) (hhigh : n < 0x110000) (h : 0xF0 + n / 262144 = m) : Begins m n 3

theorem Begins.encodePoint_eq {count : Nat} (h : Begins b.toNat n count) :
    ∃ hlt : n < 0x110000, encodePoint ⟨n, hlt⟩ = b :: tail count n := by
  cases h with
  | two hlow hhigh h =>
    refine ⟨by omega, ?_⟩
    rw [encodePoint, if_neg (Nat.not_lt.mpr hlow), if_pos hhigh, toUInt8_of_eq_toNat h, tail_one]
  | three hlow hhigh h =>
    have hlow' : 0x80 ≤ n := by omega
    refine ⟨by omega, ?_⟩
    rw [encodePoint, if_neg (Nat.not_lt.mpr hlow'), if_neg (Nat.not_lt.mpr hlow), if_pos hhigh,
      toUInt8_of_eq_toNat h, tail_two]
  | four hlow hhigh h =>
    have hlow' : 0x80 ≤ n := by omega
    have hlow'' : 0x800 ≤ n := by omega
    refine ⟨hhigh, ?_⟩
    rw [encodePoint, if_neg (Nat.not_lt.mpr hlow'), if_neg (Nat.not_lt.mpr hlow''),
      if_neg (Nat.not_lt.mpr hlow), toUInt8_of_eq_toNat h, tail_three]

/-- A first byte opens a sequence of numbers that it begins. -/
theorem begins_of_lead? (h : lead? m = some p) (hn : p.Covers n) : Begins m n p.following := by
  unfold lead? at h
  split_ifs at h with h2 hE0 hED hE hF0 hF4 hF
  all_goals
    obtain rfl := Option.some.inj h
    simp only [Lead.Covers, Lead.least, Lead.bound, Nat.shiftLeft_eq, Nat.reduceSub, Nat.reduceMul,
      Nat.reducePow] at hn
  · exact .two (by omega) (by omega) (by omega)
  · exact .three (by omega) (by omega) (by omega)
  · exact .three (by omega) (by omega) (by omega)
  · exact .three (by omega) (by omega) (by omega)
  · exact .four (by omega) (by omega) (by omega)
  · exact .four (by omega) (by omega) (by omega)
  · exact .four (by omega) (by omega) (by omega)

/-- Every number that is no surrogate is one of those that its first byte opens a sequence of. -/
theorem Begins.covers {count : Nat} (h : Begins m n count) (hn : n < 0xD800 ∨ 0xE000 ≤ n) :
    ∃ p, lead? m = some p ∧ p.Covers n := by
  have hm : (n < 0x800 ∧ 0xC2 ≤ m ∧ 0xC0 + n / 64 = m) ∨
      (0x800 ≤ n ∧ n < 0x10000 ∧ 0xE0 + n / 4096 = m) ∨
      (0x10000 ≤ n ∧ n < 0x110000 ∧ 0xF0 + n / 262144 = m) := by
    cases h with
    | two hlow hhigh h => exact .inl ⟨hhigh, by omega, h⟩
    | three hlow hhigh h => exact .inr (.inl ⟨hlow, hhigh, h⟩)
    | four hlow hhigh h => exact .inr (.inr ⟨hlow, hhigh, h⟩)
  unfold lead?
  split_ifs
  case neg => omega
  all_goals
    refine ⟨_, rfl, ?_⟩
    simp only [Lead.Covers, Lead.least, Lead.bound, Nat.shiftLeft_eq, Nat.reduceSub, Nat.reduceMul,
      Nat.reducePow]
    omega

theorem exists_begins (hlow : 0x80 ≤ n) (hhigh : n < 0x110000) :
    ∃ (b : UInt8) (count : Nat), Begins b.toNat n count := by
  rcases Nat.lt_or_ge n 0x800 with h2 | h2
  · have hbyte : 0xC0 + n / 64 < 256 := by omega
    exact ⟨_, 1, .two hlow h2 (toNat_toUInt8 hbyte).symm⟩
  rcases Nat.lt_or_ge n 0x10000 with h3 | h3
  · have hbyte : 0xE0 + n / 4096 < 256 := by omega
    exact ⟨_, 2, .three h2 h3 (toNat_toUInt8 hbyte).symm⟩
  · have hbyte : 0xF0 + n / 262144 < 256 := by omega
    exact ⟨_, 3, .four h3 hhigh (toNat_toUInt8 hbyte).symm⟩

theorem after_of_lead? (h : lead? b.toNat = some p) : p.After [b] :=
  fun _ hn => (begins_of_lead? h hn).encodePoint_eq

/-! ### The bytes of a text -/

theorem step_next (hmore : 1 < p.following) (hlow : p.low ≤ m) (hhigh : m ≤ p.high) :
    step (some p) m = ([], some (p.next m)) := by
  rw [step, if_pos ⟨hlow, hhigh⟩]
  exact if_neg (Nat.not_le.mpr hmore)

theorem step_last (hlast : p.following = 1) (hlow : p.low ≤ m) (hhigh : m ≤ p.high) :
    step (some p) m = ([point (p.bits * 64 + (m - 0x80))], none) := by
  rw [step, if_pos ⟨hlow, hhigh⟩]
  exact if_pos (Nat.le_of_eq hlast)

/-- The last bytes of a number that an open sequence covers complete the number. -/
theorem decodeFrom_tail (hp : p.Proper) (h : p.Covers n) :
    decodeFrom (some p) (tail p.following n ++ bytes) = point n :: decodeFrom none bytes := by
  obtain ⟨count, hcount⟩ : ∃ count, p.following = count + 1 :=
    ⟨p.following - 1, (Nat.sub_add_cancel hp.following_pos).symm⟩
  induction count generalizing p with
  | zero =>
    obtain ⟨hlow, hhigh⟩ := hp.digit h
    rw [hcount, Nat.zero_add, Nat.sub_self, Nat.mul_zero, Nat.shiftRight_zero] at hlow hhigh
    have hbyte : (0x80 + n % 64).toUInt8.toNat = 0x80 + n % 64 := toNat_toUInt8 (by omega)
    have hn : n = p.bits * 64 + (0x80 + n % 64 - 0x80) :=
      (hp.covers_last_iff hcount hlow hhigh).mpr ⟨h, rfl⟩
    rw [hcount, tail_one, List.singleton_append, decodeFrom_cons, hbyte,
      step_last hcount hlow hhigh, ← hn, List.singleton_append]
  | succ count ih =>
    -- the sequence that the next byte leaves open still covers the number
    obtain ⟨hlow, hhigh⟩ := hp.digit h
    have hmore : 1 < p.following := by omega
    have hcovers := (hp.covers_next_iff hmore hlow hhigh).mpr ⟨h, rfl⟩
    have hrest : (p.next (0x80 + (n >>> (6 * (p.following - 1))) % 64)).following = count + 1 := by
      rw [Lead.next, hcount, Nat.add_sub_cancel]
    have hih := ih (Lead.Proper.next hmore) hcovers hrest
    rw [hrest] at hih
    rw [hcount, Nat.add_sub_cancel] at hlow hhigh hih
    have hbyte : (0x80 + (n >>> (6 * (count + 1))) % 64).toUInt8.toNat =
        0x80 + (n >>> (6 * (count + 1))) % 64 := toNat_toUInt8 (by omega)
    rw [hcount, tail, List.cons_append, decodeFrom_cons, hbyte, step_next hmore hlow hhigh,
      List.nil_append]
    exact hih

theorem decode_encodePoint_append (hc : c.isSurrogate = false) :
    decode (encodePoint c ++ bytes) = c :: decode bytes := by
  have hpoint : point c.val = c := dif_pos c.isLt
  rcases Nat.lt_or_ge c.val 0x80 with hascii | hbeyond
  · have hbyte : c.val.toUInt8.toNat = c.val := toNat_toUInt8 (by omega)
    rw [encodePoint, if_pos hascii, List.singleton_append, decode, decodeFrom_cons, hbyte, step, first,
      if_pos hascii, hpoint]
    rfl
  · obtain ⟨b, count, hbegins⟩ := exists_begins hbeyond c.isLt
    obtain ⟨p, hlead, hcovers⟩ := hbegins.covers (isSurrogate_eq_false_iff.mp hc)
    obtain ⟨hlt, hbytes⟩ := (begins_of_lead? hlead hcovers).encodePoint_eq
    have hbytes : encodePoint c = b :: tail p.following c.val := hbytes
    have hfirst : step none b.toNat = ([], some p) := by
      have hb : ¬b.toNat < 0x80 := by
        cases hbegins <;> omega
      rw [step, first, if_neg hb, hlead]
    calc decode (encodePoint c ++ bytes)
        = decodeFrom none (b :: (tail p.following c.val ++ bytes)) := by rw [hbytes]; rfl
      _ = decodeFrom (some p) (tail p.following c.val ++ bytes) := by rw [decodeFrom_cons, hfirst]; rfl
      _ = c :: decode bytes := by rw [decodeFrom_tail (proper_of_lead? hlead) hcovers, hpoint]; rfl

/-- The bytes of a text without surrogates are read as the text, whatever follows them. -/
theorem decode_encode_append {s : Text} (hs : ∀ c ∈ s, c.isSurrogate = false) (bytes : List UInt8) :
    decode (encode s ++ bytes) = s ++ decode bytes := by
  induction s with
  | nil => rfl
  | cons c s ih =>
    obtain ⟨hc, hs⟩ := List.forall_mem_cons.mp hs
    rw [encode, List.flatMap_cons, List.append_assoc, decode_encodePoint_append hc, List.cons_append]
    exact congrArg (c :: ·) (ih hs)

theorem decode_encode {s : Text} (hs : ∀ c ∈ s, c.isSurrogate = false) : decode (encode s) = s := by
  have h := decode_encode_append hs []
  rwa [List.append_nil, show decode [] = [] from rfl, List.append_nil] at h

/-! ### The text of the bytes -/

/-- The bytes read of a sequence that is open. -/
def Pending (part : List UInt8) : Option Lead → Prop
  | none => part = []
  | some p => p.Proper ∧ p.After part

/-- A byte read without a replacement yields the points whose bytes are those read, and leaves open a
sequence that has the rest of them. -/
theorem pending_step {pending : Option Lead} (h : Pending part pending)
    (hread : replacement ∉ (step pending b.toNat).1) :
    ∃ part', Pending part' (step pending b.toNat).2 ∧
      encode (step pending b.toNat).1 ++ part' = part ++ [b] := by
  cases pending with
  | none =>
    obtain rfl : part = [] := h
    rw [step, first] at hread ⊢
    split_ifs at hread ⊢ with hascii
    · refine ⟨[], rfl, ?_⟩
      have hlt : b.toNat < 0x110000 := by omega
      rw [point, dif_pos hlt, encode, List.flatMap_singleton, encodePoint, if_pos hascii,
        toUInt8_of_eq_toNat rfl]
      rfl
    · cases hlead : lead? b.toNat with
      | some p => exact ⟨[b], ⟨proper_of_lead? hlead, after_of_lead? hlead⟩, rfl⟩
      | none =>
        rw [hlead] at hread
        exact absurd (List.mem_singleton_self _) hread
  | some p =>
    obtain ⟨hp, hafter⟩ := h
    by_cases hrange : p.low ≤ b.toNat ∧ b.toNat ≤ p.high
    · obtain ⟨hlow, hhigh⟩ := hrange
      rcases Nat.lt_or_eq_of_le hp.following_pos with hmore | hlast
      · rw [step_next hmore hlow hhigh]
        exact ⟨part ++ [b], ⟨Lead.Proper.next hmore, hafter.next hp hmore hlow hhigh⟩, rfl⟩
      · rw [step_last hlast.symm hlow hhigh]
        refine ⟨[], rfl, ?_⟩
        rw [encode, List.flatMap_singleton, hafter.last hp hlast.symm hlow hhigh, List.append_nil]
    · -- the sequence is given up for a replacement
      rw [step, if_neg hrange] at hread
      exact absurd List.mem_cons_self hread

theorem encode_decodeFrom {pending : Option Lead} (h : Pending part pending)
    (hread : replacement ∉ decodeFrom pending bytes) :
    encode (decodeFrom pending bytes) = part ++ bytes := by
  induction bytes generalizing pending part with
  | nil =>
    cases pending with
    | none =>
      obtain rfl : part = [] := h
      rfl
    | some p => exact absurd (List.mem_singleton_self _) hread
  | cons b bytes ih =>
    rw [decodeFrom_cons, List.mem_append, not_or] at hread
    obtain ⟨hfirst, hrest⟩ := hread
    obtain ⟨part', hpending, hpart⟩ := pending_step h hfirst
    calc encode (decodeFrom pending (b :: bytes))
        = encode (step pending b.toNat).1 ++ encode (decodeFrom (step pending b.toNat).2 bytes) := by
          rw [decodeFrom_cons, encode, List.flatMap_append]; rfl
      _ = encode (step pending b.toNat).1 ++ (part' ++ bytes) := by rw [ih hpending hrest]
      _ = part ++ b :: bytes := by
          rw [← List.append_assoc, hpart, List.append_assoc, List.singleton_append]

/-- Bytes that are read without a replacement are the bytes of what is read. -/
theorem encode_decode (hread : replacement ∉ decode bytes) : encode (decode bytes) = bytes := by
  have hnone : Pending [] none := rfl
  exact encode_decodeFrom hnone hread

end JuliaLookup.Utf8
