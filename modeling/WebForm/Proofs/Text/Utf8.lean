import Mathlib.Data.String.Basic
import Mathlib.Tactic.SplitIfs
import WebForm.Text.Utf8

/-!
# What UTF-8 is read as

Reading the bytes of a text gives the text. The other way round, nothing else is read: bytes that
read as a text are the bytes of that text, so the bytes that cannot be read are exactly those that
are not UTF-8.

Results:
* `decodeChar?_eq_some_iff`, `decode?_eq_some_iff`, `decodeString?_eq_some_iff`: what a character
  and a text are read from.
* `isValidUTF8_iff`: bytes are valid UTF-8 iff they are the bytes of some string.
* `encode_eq_append_cons_iff`: a byte below 0x80 is a character of its own, so that cutting the
  bytes there cuts the text.
-/

namespace WebForm.Text.Utf8

/-! ## Reading is exact -/

theorem toNat_of_charAtLeast? {least n : Nat} {c : Char} (h : charAtLeast? least n = some c) :
    c.toNat = n ∧ least ≤ n := by
  unfold charAtLeast? at h
  split at h
  · rename_i hn
    obtain rfl := Option.some.inj h
    refine ⟨?_, hn.2⟩
    unfold Char.ofNat
    rw [dif_pos hn.1]
    rfl
  · exact absurd h (by simp)

theorem toNat_of_tail? {b : UInt8} {x : Nat} (h : tail? b = some x) :
    b.toNat = 0x80 + x ∧ x < 0x40 := by
  unfold tail? at h
  split at h
  · have hx : b.toNat - 0x80 = x := Option.some.inj h
    omega
  · exact absurd h (by simp)

theorem eq_toUInt8 {b : UInt8} {n : Nat} (h : b.toNat = n) : b = n.toUInt8 := by
  rw [← h]
  simp

/-- A character is read from its own bytes only. -/
theorem eq_encodeChar_append {bs rest : List UInt8} {c : Char}
    (h : decodeChar? bs = some (c, rest)) : bs = encodeChar c ++ rest := by
  unfold decodeChar? at h
  split at h
  · simp at h
  · simp only at h
    repeat' split at h
    all_goals
      simp only [Option.map_eq_some_iff, Prod.mk.injEq, reduceCtorEq] at h
    -- One case is left for each number of bytes.
    all_goals
      obtain ⟨c, hc, rfl, rfl⟩ := h
      obtain ⟨hn, hleast⟩ := toNat_of_charAtLeast? hc
      unfold encodeChar
      simp only
    · rename_i a rest ha
      rw [if_pos (by omega), ← eq_toUInt8 hn.symm]
      rfl
    · rename_i a _ _ ha _ b rest _ x hx
      have hb := toNat_of_tail? hx
      rw [if_neg (by omega), if_pos (by omega),
        ← eq_toUInt8 (b := a) (by omega), ← eq_toUInt8 (b := b) (by omega)]
      rfl
    · rename_i a _ _ _ ha _ b b' rest _ _ x y hx hy
      have hb := toNat_of_tail? hx
      have hb' := toNat_of_tail? hy
      rw [if_neg (by omega), if_neg (by omega), if_pos (by omega),
        ← eq_toUInt8 (b := a) (by omega), ← eq_toUInt8 (b := b) (by omega),
        ← eq_toUInt8 (b := b') (by omega)]
      rfl
    · rename_i a _ _ _ _ ha _ b b' b'' rest _ _ _ x y z hx hy hz
      have hb := toNat_of_tail? hx
      have hb' := toNat_of_tail? hy
      have hb'' := toNat_of_tail? hz
      rw [if_neg (by omega), if_neg (by omega), if_neg (by omega),
        ← eq_toUInt8 (b := a) (by omega), ← eq_toUInt8 (b := b) (by omega),
        ← eq_toUInt8 (b := b') (by omega), ← eq_toUInt8 (b := b'') (by omega)]
      rfl

/-- **A character is read from its own bytes**, whatever follows, and from no others. -/
theorem decodeChar?_eq_some_iff {bs rest : List UInt8} {c : Char} :
    decodeChar? bs = some (c, rest) ↔ bs = encodeChar c ++ rest := by
  refine ⟨eq_encodeChar_append, ?_⟩
  rintro rfl
  exact decodeChar_encodeChar c rest

/-- What is read and what is left of bytes are the bytes. -/
theorem encode_decodePart (bs : List UInt8) :
    encode (decodePart bs).1 ++ (decodePart bs).2 = bs := by
  fun_induction decodePart bs with
  | case1 bs c rest h _ cs left hpart ih =>
    rw [hpart] at ih
    rw [decodeChar?_eq_some_iff.mp h, ← ih]
    simp [encode]
  | case2 bs h => rfl

/-- **A text is read from its own bytes only.** -/
theorem decode?_eq_some_iff {bs : List UInt8} {cs : List Char} :
    decode? bs = some cs ↔ encode cs = bs := by
  constructor
  · intro h
    have hparts := encode_decodePart bs
    unfold decode? at h
    split at h
    · rename_i cs' hpart
      obtain rfl := Option.some.inj h
      rw [hpart, List.append_nil] at hparts
      exact hparts
    · exact absurd h (by simp)
  · rintro rfl
    exact decode_encode cs

theorem decodeString?_eq_some_iff {bs : List UInt8} {s : String} :
    decodeString? bs = some s ↔ encodeString s = bs := by
  unfold decodeString? encodeString
  rw [Option.map_eq_some_iff]
  constructor
  · rintro ⟨cs, hcs, rfl⟩
    rw [String.toList_ofList]
    exact decode?_eq_some_iff.mp hcs
  · rintro rfl
    exact ⟨s.toList, decode_encode _, String.ofList_toList⟩

/-! ## UTF-8 -/

/-- The bytes of a character are the standard library's. -/
theorem encodeChar_eq (c : Char) : encodeChar c = String.utf8EncodeChar c := by
  have hc := toNat_lt c
  have hbyte {m n : Nat} (h : m = n) : m.toUInt8 = UInt8.ofNat n := by rw [h]
  unfold encodeChar String.utf8EncodeChar
  simp only [Char.toNat_val]
  split_ifs <;> first
    | omega
    | simp only [List.cons.injEq, and_true]
  · exact ⟨hbyte (by omega), hbyte (by omega)⟩
  · exact ⟨hbyte (by omega), hbyte (by omega), hbyte (by omega)⟩
  · exact ⟨hbyte (by omega), hbyte (by omega), hbyte (by omega), hbyte (by omega)⟩

/-- **Bytes are valid UTF-8 iff they are the bytes of a string.** -/
theorem isValidUTF8_iff {bs : List UInt8} :
    bs.toByteArray.IsValidUTF8 ↔ ∃ s : String, encodeString s = bs := by
  have hencode (cs : List Char) : (encode cs).toByteArray = cs.utf8Encode := by
    rw [List.utf8Encode, encode, funext encodeChar_eq]
  constructor
  · rintro ⟨cs, hcs⟩
    refine ⟨String.ofList cs, ?_⟩
    rw [encodeString, String.toList_ofList, ← List.toByteArray_inj, hencode, hcs]
  · rintro ⟨s, rfl⟩
    exact ⟨s.toList, hencode _⟩

/-! ## Cutting bytes at a character -/

/-- A character above the first 128 has no byte below 0x80. -/
theorem le_of_mem_encodeChar {b : UInt8} {c : Char} (hc : 0x80 ≤ c.toNat)
    (h : b ∈ encodeChar c) : 0x80 ≤ b.toNat := by
  have hlt := toNat_lt c
  have hbyte {n : Nat} (hn : 0x80 ≤ n) (hn' : n < 256) : 0x80 ≤ n.toUInt8.toNat := by
    rwa [toNat_toUInt8 hn']
  unfold encodeChar at h
  simp only at h
  split_ifs at h
  · omega
  all_goals
    simp only [List.mem_cons, List.not_mem_nil, or_false] at h
  · obtain rfl | rfl := h <;> exact hbyte (by omega) (by omega)
  · obtain rfl | rfl | rfl := h <;> exact hbyte (by omega) (by omega)
  · obtain rfl | rfl | rfl | rfl := h <;> exact hbyte (by omega) (by omega)

theorem encodeChar_of_lt {c : Char} (hc : c.toNat < 0x80) : encodeChar c = [c.toNat.toUInt8] := by
  unfold encodeChar
  simp only
  rw [if_pos hc]

/-- A byte below 0x80 is a character of its own. -/
theorem encodeChar_eq_singleton {b : UInt8} {c : Char} (hb : b.toNat < 0x80)
    (h : b ∈ encodeChar c) : encodeChar c = [b] := by
  by_cases hc : c.toNat < 0x80
  · rw [encodeChar_of_lt hc] at h ⊢
    rw [List.mem_singleton.mp h]
  · exact absurd (le_of_mem_encodeChar (by omega) h) (by omega)

theorem encodeChar_inj {c d : Char} : encodeChar c = encodeChar d ↔ c = d := by
  refine ⟨fun h => ?_, congrArg _⟩
  have hc := decodeChar_encodeChar c []
  rw [h, decodeChar_encodeChar] at hc
  exact (Prod.mk.inj (Option.some.inj hc)).1.symm

theorem encode_append (cs ds : List Char) : encode (cs ++ ds) = encode cs ++ encode ds :=
  List.flatMap_append

theorem exists_of_encode_eq {d : Char} (hd : d.toNat < 0x80) {ys : List UInt8} :
    ∀ {cs : List Char} {xs : List UInt8}, encode cs = xs ++ d.toNat.toUInt8 :: ys →
      ∃ before after, cs = before ++ d :: after ∧ encode before = xs ∧ encode after = ys
  | [], xs, h => absurd h (by simp [encode])
  | c :: cs, xs, h => by
    rw [encode, List.flatMap_cons, List.append_eq_append_iff] at h
    rcases h with ⟨as, rfl, has⟩ | ⟨bs, hc, hbs⟩
    · obtain ⟨before, after, rfl, rfl, rfl⟩ := exists_of_encode_eq hd has
      exact ⟨c :: before, after, rfl, by simp [encode], rfl⟩
    · cases bs with
      | nil =>
        -- The cut is right behind the first character.
        have hcut : encode cs = [] ++ d.toNat.toUInt8 :: ys := hbs.symm
        obtain ⟨before, after, rfl, hbefore, rfl⟩ := exists_of_encode_eq hd hcut
        refine ⟨c :: before, after, rfl, ?_, rfl⟩
        rw [encode, List.flatMap_cons, hc, List.append_nil]
        exact (congrArg (xs ++ ·) hbefore).trans (List.append_nil xs)
      | cons b bs =>
        obtain ⟨rfl, rfl⟩ := List.cons.inj hbs
        have hsingle : encodeChar c = encodeChar d := by
          rw [encodeChar_of_lt hd]
          refine encodeChar_eq_singleton ?_ (by simp [hc])
          rwa [toNat_toUInt8 (by omega)]
        obtain rfl := encodeChar_inj.mp hsingle
        rw [encodeChar_of_lt hd] at hc
        obtain rfl : xs = [] := by
          cases xs with
          | nil => rfl
          | cons x xs => simp at hc
        obtain rfl : bs = [] := by simpa using hc.symm
        exact ⟨[], cs, rfl, rfl, rfl⟩

/-- **Cutting the bytes of a text at a byte below 0x80 cuts the text.** -/
theorem encode_eq_append_cons_iff {d : Char} (hd : d.toNat < 0x80) {cs : List Char}
    {xs ys : List UInt8} : encode cs = xs ++ d.toNat.toUInt8 :: ys ↔
      ∃ before after, cs = before ++ d :: after ∧ encode before = xs ∧ encode after = ys := by
  refine ⟨exists_of_encode_eq hd, ?_⟩
  rintro ⟨before, after, rfl, rfl, rfl⟩
  rw [encode_append, encode, encode, List.flatMap_cons, encodeChar_of_lt hd]
  rfl

end WebForm.Text.Utf8
