/-!
# UTF-8

The bytes of a text and back. A reading is strict: overlong forms, surrogates and everything above
U+10FFFF are refused, and `validLength` says how many bytes come before the first that cannot be
read.

Results:
* `decodeChar_encodeChar`: a character's bytes read back as that character, whatever follows.
* `decode_encode`, `decodeString_encodeString`: the bytes of a text read back as the text.
* `head?_of_encodeChar_prefix`: bytes that start alike are texts that start alike.
-/

namespace WebForm.Text.Utf8

/-- The bytes of a character. -/
def encodeChar (c : Char) : List UInt8 :=
  let n := c.toNat
  if n < 0x80 then [n.toUInt8]
  else if n < 0x800 then [(0xC0 + n / 0x40).toUInt8, (0x80 + n % 0x40).toUInt8]
  else if n < 0x10000 then
    [(0xE0 + n / 0x1000).toUInt8, (0x80 + n / 0x40 % 0x40).toUInt8, (0x80 + n % 0x40).toUInt8]
  else
    [(0xF0 + n / 0x40000).toUInt8, (0x80 + n / 0x1000 % 0x40).toUInt8,
      (0x80 + n / 0x40 % 0x40).toUInt8, (0x80 + n % 0x40).toUInt8]

/-- The bytes of a text. -/
def encode (cs : List Char) : List UInt8 := cs.flatMap encodeChar

/-- The bytes of a string. -/
def encodeString (s : String) : List UInt8 := encode s.toList

/-- The six bits of a continuation byte. -/
def tail? (b : UInt8) : Option Nat :=
  if 0x80 ≤ b.toNat ∧ b.toNat < 0xC0 then some (b.toNat - 0x80) else none

/-- The character with a number, when the number is a character's and at least `least`. -/
def charAtLeast? (least n : Nat) : Option Char :=
  if n.isValidChar ∧ least ≤ n then some (Char.ofNat n) else none

/-- The first character and the bytes after it. -/
def decodeChar? : List UInt8 → Option (Char × List UInt8)
  | [] => none
  | a :: rest =>
    let n := a.toNat
    if n < 0x80 then (charAtLeast? 0 n).map (·, rest)
    else if n < 0xC0 then none
    else if n < 0xE0 then
      match rest with
      | b :: rest =>
        match tail? b with
        | some x => (charAtLeast? 0x80 ((n - 0xC0) * 0x40 + x)).map (·, rest)
        | none => none
      | [] => none
    else if n < 0xF0 then
      match rest with
      | b :: b' :: rest =>
        match tail? b, tail? b' with
        | some x, some y =>
          (charAtLeast? 0x800 ((n - 0xE0) * 0x1000 + x * 0x40 + y)).map (·, rest)
        | _, _ => none
      | _ => none
    else if n < 0xF8 then
      match rest with
      | b :: b' :: b'' :: rest =>
        match tail? b, tail? b', tail? b'' with
        | some x, some y, some z =>
          (charAtLeast? 0x10000 ((n - 0xF0) * 0x40000 + x * 0x1000 + y * 0x40 + z)).map
            (·, rest)
        | _, _, _ => none
      | _ => none
    else none

theorem length_of_decodeChar? {bs rest : List UInt8} {c : Char}
    (h : decodeChar? bs = some (c, rest)) : rest.length < bs.length := by
  unfold decodeChar? at h
  split at h
  · simp at h
  · simp only at h
    repeat' split at h
    all_goals
      simp only [Option.map_eq_some_iff, Prod.mk.injEq, reduceCtorEq] at h
    all_goals
      obtain ⟨_, _, _, rfl⟩ := h
      simp only [List.length_cons]
      omega

theorem decodeChar?_one {a : UInt8} (rest : List UInt8) {c : Char} (h : a.toNat < 0x80)
    (hc : charAtLeast? 0 a.toNat = some c) : decodeChar? (a :: rest) = some (c, rest) := by
  simp only [decodeChar?]
  rw [if_pos h]
  exact congrArg (Option.map (·, rest)) hc

theorem decodeChar?_two {a b : UInt8} (rest : List UInt8) {x : Nat} {c : Char}
    (h : 0xC0 ≤ a.toNat) (h' : a.toNat < 0xE0) (hb : tail? b = some x)
    (hc : charAtLeast? 0x80 ((a.toNat - 0xC0) * 0x40 + x) = some c) :
    decodeChar? (a :: b :: rest) = some (c, rest) := by
  simp only [decodeChar?]
  rw [if_neg (by omega), if_neg (by omega), if_pos h', hb]
  exact congrArg (Option.map (·, rest)) hc

theorem decodeChar?_three {a b b' : UInt8} (rest : List UInt8) {x y : Nat} {c : Char}
    (h : 0xE0 ≤ a.toNat) (h' : a.toNat < 0xF0) (hb : tail? b = some x) (hb' : tail? b' = some y)
    (hc : charAtLeast? 0x800 ((a.toNat - 0xE0) * 0x1000 + x * 0x40 + y) = some c) :
    decodeChar? (a :: b :: b' :: rest) = some (c, rest) := by
  simp only [decodeChar?]
  rw [if_neg (by omega), if_neg (by omega), if_neg (by omega), if_pos h', hb, hb']
  exact congrArg (Option.map (·, rest)) hc

theorem decodeChar?_four {a b b' b'' : UInt8} (rest : List UInt8) {x y z : Nat} {c : Char}
    (h : 0xF0 ≤ a.toNat) (h' : a.toNat < 0xF8) (hb : tail? b = some x) (hb' : tail? b' = some y)
    (hb'' : tail? b'' = some z)
    (hc : charAtLeast? 0x10000 ((a.toNat - 0xF0) * 0x40000 + x * 0x1000 + y * 0x40 + z) =
      some c) : decodeChar? (a :: b :: b' :: b'' :: rest) = some (c, rest) := by
  simp only [decodeChar?]
  rw [if_neg (by omega), if_neg (by omega), if_neg (by omega), if_neg (by omega), if_pos h',
    hb, hb', hb'']
  exact congrArg (Option.map (·, rest)) hc

theorem charAtLeast?_toNat {least : Nat} {c : Char} (h : least ≤ c.toNat) :
    charAtLeast? least c.toNat = some c := by
  have hv : c.toNat.isValidChar := c.valid
  simp [charAtLeast?, hv, h]

theorem toNat_toUInt8 {n : Nat} (h : n < 256) : n.toUInt8.toNat = n := by
  simp [Nat.toUInt8, h]

theorem tail?_toUInt8 {n : Nat} (h : n < 0x40) : tail? (0x80 + n).toUInt8 = some n := by
  simp only [tail?, toNat_toUInt8 (show 0x80 + n < 256 by omega)]
  rw [if_pos (by omega)]
  simp

theorem split_three (n : Nat) :
    n / 0x1000 * 0x1000 + n / 0x40 % 0x40 * 0x40 + n % 0x40 = n := by
  omega

theorem split_four (n : Nat) : n / 0x40000 * 0x40000 + n / 0x1000 % 0x40 * 0x1000 +
    n / 0x40 % 0x40 * 0x40 + n % 0x40 = n := by
  omega

theorem toNat_lt (c : Char) : c.toNat < 0x110000 := by
  have hv : c.toNat.isValidChar := c.valid
  simp only [Nat.isValidChar] at hv
  omega

/-- A character's bytes read back as that character, whatever follows. -/
theorem decodeChar_encodeChar (c : Char) (rest : List UInt8) :
    decodeChar? (encodeChar c ++ rest) = some (c, rest) := by
  have hv := toNat_lt c
  simp only [encodeChar]
  split
  · rename_i h
    have ha : c.toNat.toUInt8.toNat = c.toNat := toNat_toUInt8 (by omega)
    simp only [List.cons_append, List.nil_append]
    refine decodeChar?_one rest (by omega) ?_
    rw [ha]
    exact charAtLeast?_toNat (Nat.zero_le _)
  split
  · rename_i h1 h2
    have ha : (0xC0 + c.toNat / 0x40).toUInt8.toNat = 0xC0 + c.toNat / 0x40 :=
      toNat_toUInt8 (by omega)
    simp only [List.cons_append, List.nil_append]
    refine decodeChar?_two rest (by omega) (by omega)
      (tail?_toUInt8 (Nat.mod_lt _ (by decide))) ?_
    rw [ha, show (0xC0 + c.toNat / 0x40 - 0xC0) * 0x40 + c.toNat % 0x40 = c.toNat by omega]
    exact charAtLeast?_toNat (by omega)
  split
  · rename_i h1 h2 h3
    have ha : (0xE0 + c.toNat / 0x1000).toUInt8.toNat = 0xE0 + c.toNat / 0x1000 :=
      toNat_toUInt8 (by omega)
    simp only [List.cons_append, List.nil_append]
    refine decodeChar?_three rest (by omega) (by omega)
      (tail?_toUInt8 (Nat.mod_lt _ (by decide))) (tail?_toUInt8 (Nat.mod_lt _ (by decide))) ?_
    rw [ha, Nat.add_sub_cancel_left, split_three]
    exact charAtLeast?_toNat (by omega)
  · rename_i h1 h2 h3
    have ha : (0xF0 + c.toNat / 0x40000).toUInt8.toNat = 0xF0 + c.toNat / 0x40000 :=
      toNat_toUInt8 (by omega)
    simp only [List.cons_append, List.nil_append]
    refine decodeChar?_four rest (by omega) (by omega)
      (tail?_toUInt8 (Nat.mod_lt _ (by decide))) (tail?_toUInt8 (Nat.mod_lt _ (by decide)))
      (tail?_toUInt8 (Nat.mod_lt _ (by decide))) ?_
    rw [ha, Nat.add_sub_cancel_left, split_four]
    exact charAtLeast?_toNat (by omega)

/-- The characters of the longest readable start, and the bytes after it. -/
def decodePart (bs : List UInt8) : List Char × List UInt8 :=
  match h : decodeChar? bs with
  | some (c, rest) =>
    have := length_of_decodeChar? h
    let (cs, left) := decodePart rest
    (c :: cs, left)
  | none => ([], bs)
termination_by bs.length

/-- The text, when every byte can be read. -/
def decode? (bs : List UInt8) : Option (List Char) :=
  match decodePart bs with
  | (cs, []) => some cs
  | (_, _ :: _) => none

/-- The string, when every byte can be read. -/
def decodeString? (bs : List UInt8) : Option String := (decode? bs).map String.ofList

theorem decodePart_encode (cs : List Char) : decodePart (encode cs) = (cs, []) := by
  induction cs with
  | nil =>
    unfold decodePart
    rfl
  | cons c cs ih =>
    unfold decodePart
    have h : decodeChar? (encode (c :: cs)) = some (c, encode cs) := by
      simp only [encode, List.flatMap_cons]
      exact decodeChar_encodeChar c _
    split
    · rename_i c' rest h'
      rw [h] at h'
      simp only [Option.some.injEq, Prod.mk.injEq] at h'
      obtain ⟨rfl, rfl⟩ := h'
      simp [ih]
    · rename_i h'
      simp [h] at h'

/-- The bytes of a text read back as the text. -/
theorem decode_encode (cs : List Char) : decode? (encode cs) = some cs := by
  simp [decode?, decodePart_encode]

theorem decodeString_encodeString (s : String) : decodeString? (encodeString s) = some s := by
  simp [decodeString?, encodeString, decode_encode]

/-- A text whose bytes start with those of a character starts with the character. -/
theorem head?_of_encodeChar_prefix {c : Char} {s : String} (h : encodeChar c <+: encodeString s) :
    s.toList.head? = some c := by
  obtain ⟨rest, hrest⟩ := h
  have hc := decodeChar_encodeChar c rest
  rw [hrest] at hc
  unfold encodeString at hc
  cases hs : s.toList with
  | nil =>
    rw [hs] at hc
    exact absurd hc (by simp [encode, decodeChar?])
  | cons c' cs =>
    rw [hs, encode, List.flatMap_cons, decodeChar_encodeChar] at hc
    simp only [Option.some.injEq, Prod.mk.injEq] at hc
    rw [hc.1, List.head?_cons]

/-- How many bytes come before the first that cannot be read. -/
def validLength (bs : List UInt8) : Nat := bs.length - (decodePart bs).2.length

end WebForm.Text.Utf8
