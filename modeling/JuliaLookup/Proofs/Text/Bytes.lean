import JuliaLookup.Text.Utf8
import Mathlib.Tactic.SplitIfs

/-!
# How many bytes a text takes

A code point takes one to four bytes in UTF-8, one if it is ASCII, and a text takes those of its code points
together.
-/

namespace JuliaLookup.Utf8

variable {c : CodePoint}

theorem length_encodePoint_le (c : CodePoint) : (encodePoint c).length ≤ 4 := by
  unfold encodePoint
  dsimp only
  split_ifs <;> simp

theorem length_encodePoint_of_ascii (hc : c.val < 0x80) : (encodePoint c).length = 1 := by
  simp [encodePoint, hc]

@[simp] theorem length_encode_append (s t : Text) :
    (encode (s ++ t)).length = (encode s).length + (encode t).length := by
  rw [encode, List.flatMap_append, List.length_append, encode, encode]

@[simp] theorem length_encode_cons (c : CodePoint) (t : Text) :
    (encode (c :: t)).length = (encodePoint c).length + (encode t).length := by
  rw [encode, List.flatMap_cons, List.length_append, encode]

theorem length_encode_le (t : Text) : (encode t).length ≤ 4 * t.length := by
  induction t with
  | nil => exact Nat.le_refl 0
  | cons c t ih =>
    have hc := length_encodePoint_le c
    rw [length_encode_cons, List.length_cons]
    omega

theorem length_encode_of_ascii {t : Text} (ht : ∀ c ∈ t, c.val < 0x80) :
    (encode t).length = t.length := by
  induction t with
  | nil => rfl
  | cons c t ih =>
    have hc := length_encodePoint_of_ascii (ht c List.mem_cons_self)
    have hrest := ih fun d hd => ht d (List.mem_cons_of_mem c hd)
    rw [length_encode_cons, List.length_cons, hc, hrest, Nat.add_comm]

/-- The bytes of a part are no more than the bytes of the whole. -/
theorem length_encode_sublist {s t : Text} (h : s.Sublist t) :
    (encode s).length ≤ (encode t).length := by
  induction h with
  | slnil => exact Nat.le_refl 0
  | cons c _ ih =>
    rw [length_encode_cons]
    omega
  | cons_cons c _ ih =>
    rw [length_encode_cons, length_encode_cons]
    omega

end JuliaLookup.Utf8
