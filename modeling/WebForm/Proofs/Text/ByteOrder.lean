import Mathlib.Data.String.Basic
import Mathlib.Tactic.SplitIfs
import WebForm.Text.Utf8

/-!
# The order of bytes

Texts are ordered by their characters, and a character by its number. Their UTF-8 bytes, compared
one after the other as numbers, have the same order: a larger character has more bytes, and a larger
first one then, or it has as many, of which the first that differs is larger.

Results:
* `encodeChar_append_lt`: of two characters the larger has the larger bytes, whatever follows.
* `encodeString_lt`: of two strings the larger has the larger bytes.
-/

namespace WebForm.Text.Utf8

theorem toUInt8_lt_iff {m n : Nat} (hm : m < 256) (hn : n < 256) :
    m.toUInt8 < n.toUInt8 ↔ m < n := by
  rw [UInt8.lt_iff_toNat_lt, toNat_toUInt8 hm, toNat_toUInt8 hn]

theorem toUInt8_inj {m n : Nat} (hm : m < 256) (hn : n < 256) :
    m.toUInt8 = n.toUInt8 ↔ m = n := by
  rw [← UInt8.toNat_inj, toNat_toUInt8 hm, toNat_toUInt8 hn]

/-- Of two characters the larger has the larger bytes, whatever follows. -/
theorem encodeChar_append_lt {c d : Char} (h : c < d) (xs ys : List UInt8) :
    encodeChar c ++ xs < encodeChar d ++ ys := by
  have hlt : c.toNat < d.toNat := h
  have hd := toNat_lt d
  unfold encodeChar
  simp only
  -- The digits of the two numbers in base 64 are compared, one for each byte.
  split_ifs <;>
    simp (disch := omega) only [List.cons_append, List.nil_append, List.cons_lt_cons_iff,
      toUInt8_lt_iff, toUInt8_inj] <;>
    omega

theorem encodeChar_ne_nil (c : Char) : encodeChar c ≠ [] := by
  unfold encodeChar
  simp only
  split_ifs <;> exact List.cons_ne_nil _ _

/-- Of two texts the larger has the larger bytes. -/
theorem encode_lt : ∀ {cs ds : List Char}, cs < ds → encode cs < encode ds
  | [], [], h => absurd h (by simp)
  | [], d :: ds, _ => by
    obtain ⟨b, bs, hb⟩ := List.exists_cons_of_ne_nil (encodeChar_ne_nil d)
    rw [encode, encode, List.flatMap_nil, List.flatMap_cons, hb]
    exact List.nil_lt_cons b _
  | c :: cs, [], h => absurd h (by simp)
  | c :: cs, d :: ds, h => by
    rw [encode, encode, List.flatMap_cons, List.flatMap_cons]
    rcases List.cons_lt_cons_iff.mp h with hhead | ⟨rfl, htail⟩
    · exact encodeChar_append_lt hhead _ _
    · exact List.append_left_lt (encode_lt htail)

/-- **Of two strings the larger has the larger bytes.** -/
theorem encodeString_lt {s t : String} (h : s < t) : encodeString s < encodeString t :=
  encode_lt (String.lt_iff_toList_lt.mp h)

end WebForm.Text.Utf8
