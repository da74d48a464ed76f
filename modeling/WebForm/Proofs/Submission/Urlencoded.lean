import Mathlib.Data.List.Forall2
import WebForm.Submission

/-!
# Urlencoded bodies and the pairs they encode

A list of pairs has many urlencoded bodies. Here they are described from the side of the writer, who
at every character has a choice, and decoding is shown to undo all of them.

* A character is written as itself unless it is *reserved*, or as one escape for each byte of its
  UTF-8; a space also as `+` (`Writes`). An escape is `%` and two hexadecimal digits, each in either
  case (`Escapes`).
* Reserved are `&`, `%` and `+`, and in keys `=` too.
* A pair is its key and its value with `=` between them; a pair with an empty value can be its key
  alone, unless that is empty too (`WritesPair`).
* Pairs are separated by one or more `&`; there may be more of them at both ends (`WritesBody`).

Results:
* `bytes_of_writes`: a component decodes to the bytes of its text.
* `decodePair_of_writesPair`: a pair decodes to its key and its value.
* `forall₂_of_writesBody`: the pieces of a body are the written pairs.
* `decode_of_writesBody`: a body decodes to the map that inserting its pairs builds.
-/

namespace WebForm.Urlencoded

open Text

/-! ## What a writer may write -/

/-- The digit denotes the number, in lower or in upper case. -/
def IsDigitOf (n : Nat) (c : Char) : Prop :=
  c = Hexadecimal.digitChar n ∨ c = (Hexadecimal.digitChar n).toUpper

instance (n : Nat) (c : Char) : Decidable (IsDigitOf n c) := inferInstanceAs (Decidable (_ ∨ _))

/-- The text holds one escape for each of the bytes. -/
inductive Escapes : List UInt8 → List Char → Prop
  | nil : Escapes [] []
  | cons {b : UInt8} {high low : Char} {bs : List UInt8} {cs : List Char}
    (hhigh : IsDigitOf (b.toNat / 16) high) (hlow : IsDigitOf (b.toNat % 16) low)
    (h : Escapes bs cs) : Escapes (b :: bs) ('%' :: high :: low :: cs)

/-- What is not written as itself: `&`, `%`, `+`, and where the text stands maybe others. -/
def reserved (others : List Char) : List Char := '&' :: '%' :: '+' :: others

/-- The text is written character by character, those that are reserved escaped. -/
inductive Writes (others : List Char) : List Char → List Char → Prop
  | nil : Writes others [] []
  | literal {c : Char} {text written : List Char} (hc : c ∉ reserved others)
    (h : Writes others text written) : Writes others (c :: text) (c :: written)
  | plus {text written : List Char} (h : Writes others text written) :
    Writes others (' ' :: text) ('+' :: written)
  | escaped {c : Char} {escapes text written : List Char}
    (hc : Escapes (Utf8.encodeChar c) escapes) (h : Writes others text written) :
    Writes others (c :: text) (escapes ++ written)

/-- The pair is written with its `=`, or without it when only the value is empty. -/
inductive WritesPair : String × String → List Char → Prop
  | full {key value : String} {k v : List Char} (hk : Writes ['='] key.toList k)
    (hv : Writes [] value.toList v) : WritesPair (key, value) (k ++ '=' :: v)
  | bare {key : String} {k : List Char} (hne : key ≠ "") (hk : Writes ['='] key.toList k) :
    WritesPair (key, "") k

/-- The pairs are written one after another with at least one `&` between any two. -/
inductive WritesBody : List (String × String) → List Char → Prop
  | nil : WritesBody [] []
  | separator {pairs : List (String × String)} {body : List Char} (h : WritesBody pairs body) :
    WritesBody pairs ('&' :: body)
  | last {pair : String × String} {piece : List Char} (hp : WritesPair pair piece) :
    WritesBody [pair] piece
  | cons {pair : String × String} {piece : List Char} {pairs : List (String × String)}
    {body : List Char} (hp : WritesPair pair piece) (h : WritesBody pairs body) :
    WritesBody (pair :: pairs) (piece ++ '&' :: body)

/-! ## Escapes -/

theorem digit?_of_isDigitOf {n : Nat} {c : Char} (hn : n < 16) (h : IsDigitOf n c) :
    Hexadecimal.digit? c = some n := by
  have hupper : ∀ n < 16, Hexadecimal.digit? (Hexadecimal.digitChar n).toUpper = some n := by
    decide
  rcases h with rfl | rfl
  · exact Hexadecimal.digit?_digitChar hn
  · exact hupper n hn

/-- A digit is none of the characters with a meaning of their own. -/
theorem isAlphanum_of_isDigitOf {n : Nat} {c : Char} (hn : n < 16) (h : IsDigitOf n c) :
    c.isAlphanum = true := by
  have hdigits : ∀ n < 16, (Hexadecimal.digitChar n).isAlphanum = true ∧
      (Hexadecimal.digitChar n).toUpper.isAlphanum = true := by
    decide
  rcases h with rfl | rfl
  · exact (hdigits n hn).1
  · exact (hdigits n hn).2

theorem escaped?_of_isDigitOf {b : UInt8} {high low : Char} (hhigh : IsDigitOf (b.toNat / 16) high)
    (hlow : IsDigitOf (b.toNat % 16) low) : escaped? high low = some b := by
  have hb : b.toNat < 256 := b.toNat_lt
  unfold escaped?
  rw [digit?_of_isDigitOf (by omega) hhigh, digit?_of_isDigitOf (by omega) hlow]
  show some (b.toNat / 16 * 16 + b.toNat % 16).toUInt8 = some b
  rw [show b.toNat / 16 * 16 + b.toNat % 16 = b.toNat by omega]
  simp

/-- Escapes decode to their bytes, whatever follows. -/
theorem bytes_escapes_append {bs : List UInt8} {cs : List Char} (h : Escapes bs cs)
    (rest : List Char) : bytes (cs ++ rest) = bs ++ bytes rest := by
  induction h with
  | nil => rfl
  | cons hhigh hlow _ ih =>
    rw [List.cons_append, List.cons_append, List.cons_append, bytes,
      escaped?_of_isDigitOf hhigh hlow]
    simp only
    rw [ih, List.cons_append]

/-- Escapes hold `%` and digits only. -/
theorem not_mem_escapes {c : Char} (hc : c ≠ '%') (hdigit : c.isAlphanum = false)
    {bs : List UInt8} {cs : List Char} (h : Escapes bs cs) : c ∉ cs := by
  have hne : ∀ {n : Nat} {d : Char}, n < 16 → IsDigitOf n d → c ≠ d := by
    rintro n d hn hd rfl
    rw [isAlphanum_of_isDigitOf hn hd] at hdigit
    exact Bool.noConfusion hdigit
  induction h with
  | nil => exact List.not_mem_nil
  | @cons b high low bs cs hhigh hlow _ ih =>
    have hb : b.toNat < 256 := b.toNat_lt
    simp only [List.mem_cons, not_or]
    exact ⟨hc, hne (by omega) hhigh, hne (by omega) hlow, ih⟩

/-! ## Components -/

theorem bytes_cons_of_ne {c : Char} (hplus : c ≠ '+') (hpercent : c ≠ '%') (cs : List Char) :
    bytes (c :: cs) = Utf8.encodeChar c ++ bytes cs := by
  rw [bytes.eq_def]
  split <;> simp_all

variable {others text written : List Char}

/-- **A component decodes to the bytes of its text**, however it is written. -/
theorem bytes_of_writes (h : Writes others text written) : bytes written = Utf8.encode text := by
  -- On the way the text was written: each way of writing a character has its own case in `bytes`.
  induction h with
  | nil => rfl
  | @literal c text written hc _ ih =>
    have hplus : c ≠ '+' := fun e => hc (by simp [reserved, e])
    have hpercent : c ≠ '%' := fun e => hc (by simp [reserved, e])
    rw [bytes_cons_of_ne hplus hpercent, ih]
    rfl
  | plus _ ih =>
    rw [bytes, ih]
    rfl
  | escaped hc _ ih =>
    rw [bytes_escapes_append hc, ih]
    rfl

theorem decodeComponent_of_writes {s : String} (h : Writes others s.toList written) :
    decodeComponent written = .ok s := by
  have hs : Utf8.decodeString? (bytes written) = some s := by
    rw [bytes_of_writes h]
    exact Utf8.decodeString_encodeString s
  unfold decodeComponent
  rw [hs]

/-- Only the empty text is written as nothing. -/
theorem ne_nil_of_writes (h : Writes others text written) (hne : text ≠ []) : written ≠ [] := by
  rintro rfl
  have hbytes : Utf8.encode [] = Utf8.encode text := bytes_of_writes h
  have hdecode := Utf8.decode_encode text
  rw [← hbytes, Utf8.decode_encode] at hdecode
  exact hne (Option.some.inj hdecode).symm

/-- A reserved character is not written, unless escapes or spaces are written with it. -/
theorem not_mem_of_writes {c : Char} (hc : c ∈ reserved others) (hplus : c ≠ '+')
    (hpercent : c ≠ '%') (hdigit : c.isAlphanum = false) (h : Writes others text written) :
    c ∉ written := by
  induction h with
  | nil => exact List.not_mem_nil
  | literal hd _ ih =>
    simp only [List.mem_cons, not_or]
    exact ⟨fun e => hd (e ▸ hc), ih⟩
  | plus _ ih =>
    simp only [List.mem_cons, not_or]
    exact ⟨hplus, ih⟩
  | escaped he _ ih =>
    simp only [List.mem_append, not_or]
    exact ⟨not_mem_escapes hpercent hdigit he, ih⟩

theorem ampersand_not_mem_of_writes (h : Writes others text written) : '&' ∉ written :=
  not_mem_of_writes List.mem_cons_self (by decide) (by decide) (by decide) h

theorem equals_not_mem_of_writes (h : Writes ['='] text written) : '=' ∉ written :=
  not_mem_of_writes (by decide) (by decide) (by decide) (by decide) h

/-! ## Pairs -/

variable {pair : String × String} {piece : List Char}

theorem ampersand_not_mem_of_writesPair (h : WritesPair pair piece) : '&' ∉ piece := by
  cases h with
  | full hk hv =>
    simp only [List.mem_append, List.mem_cons, not_or]
    exact ⟨ampersand_not_mem_of_writes hk, by decide, ampersand_not_mem_of_writes hv⟩
  | bare _ hk => exact ampersand_not_mem_of_writes hk

theorem ne_nil_of_writesPair (h : WritesPair pair piece) : piece ≠ [] := by
  cases h with
  | full => simp
  | bare hne hk => exact ne_nil_of_writes hk (by simpa using hne)

/-- **A pair decodes to its key and its value**, with its `=` or without. -/
theorem decodePair_of_writesPair (h : WritesPair pair piece) :
    decodePair (splitPair piece) = .ok pair := by
  cases h with
  | @full key value k v hk hv =>
    have hsplit : splitPair (k ++ '=' :: v) = (k, v) := by
      rw [splitPair, splitFirst_eq_some_iff.mpr ⟨rfl, equals_not_mem_of_writes hk⟩,
        Option.getD_some]
    rw [hsplit, decodePair, decodeComponent_of_writes hk, decodeComponent_of_writes hv]
    rfl
  | @bare key _ _ hk =>
    have hsplit : splitPair piece = (piece, []) := by
      rw [splitPair, splitFirst_eq_none_iff.mpr (equals_not_mem_of_writes hk), Option.getD_none]
    have hempty : Writes [] "".toList [] := .nil
    rw [hsplit, decodePair, decodeComponent_of_writes hk, decodeComponent_of_writes hempty]
    rfl

/-! ## Bodies -/

variable {body : List Char}

/-- The pieces of a body that hold something are the written pairs, in order. -/
theorem forall₂_of_writesBody {pairs : List (String × String)} (h : WritesBody pairs body) :
    List.Forall₂ WritesPair pairs ((split '&' body).filter fun piece => !piece.isEmpty) := by
  have hfilter : ∀ {pair : String × String} {piece : List Char}, WritesPair pair piece →
      ∀ pieces, (piece :: pieces).filter (fun piece => !piece.isEmpty) =
        piece :: pieces.filter fun piece => !piece.isEmpty :=
    fun hp pieces => by simp [ne_nil_of_writesPair hp]
  -- What stands between two separators in a row is empty and dropped; a written pair never is.
  induction h with
  | nil => exact .nil
  | separator _ ih => exact ih
  | last hp =>
    rw [split_of_not_mem (ampersand_not_mem_of_writesPair hp), hfilter hp]
    exact .cons hp .nil
  | cons hp _ ih =>
    rw [split_append_cons (ampersand_not_mem_of_writesPair hp), hfilter hp]
    exact .cons hp ih

/-- Written pairs decode one by one. -/
theorem mapM_decodePair {pairs : List (String × String)} {pieces : List (List Char)}
    (h : List.Forall₂ WritesPair pairs pieces) :
    (pieces.map splitPair).mapM decodePair = .ok pairs := by
  induction h with
  | nil => rfl
  | cons hp _ ih =>
    rw [List.map_cons, List.mapM_cons, decodePair_of_writesPair hp, ih]
    rfl

/-- **A body decodes to exactly the pairs that it encodes.** However they are written, decoding
succeeds with the map that inserting them from left to right builds: each key once, at its first
place, with its last value. -/
theorem decode_of_writesBody {pairs : List (String × String)} {body : String}
    (h : WritesBody pairs body.toList) :
    decode body = .ok (.ofList pairs) ∧
      (OrderedMap.ofList pairs).keys = (pairs.map Prod.fst).eraseDups ∧
      ∀ key, (OrderedMap.ofList pairs).get? key = pairs.reverse.lookup key := by
  refine ⟨?_, OrderedMap.keys_ofList pairs, OrderedMap.get?_ofList pairs⟩
  unfold decode
  rw [Urlencoded.pairs, mapM_decodePair (forall₂_of_writesBody h)]
  rfl

/-- Pairs with a key twice, an empty key and separators in the texts. -/
def mixedPairs : List (String × String) := [("é", "a b"), ("=", ""), ("", "=&"), ("é", "")]

/-- A body that encodes them in mixed ways. -/
def mixedBody : String := "&%C3%a9=a+b&&%3D&==%26&é&"

theorem writesBody_mixed : WritesBody mixedPairs mixedBody.toList := by
  have hescaped : Escapes (Utf8.encodeChar 'é') ['%', 'C', '3', '%', 'a', '9'] :=
    .cons (by decide) (by decide) (.cons (by decide) (by decide) .nil)
  have hequals : Escapes (Utf8.encodeChar '=') ['%', '3', 'D'] :=
    .cons (by decide) (by decide) .nil
  have hampersand : Escapes (Utf8.encodeChar '&') ['%', '2', '6'] :=
    .cons (by decide) (by decide) .nil
  have hfirst : WritesPair ("é", "a b") ("%C3%a9".toList ++ '=' :: "a+b".toList) :=
    .full (.escaped hescaped .nil) (.literal (by decide) (.plus (.literal (by decide) .nil)))
  have hsecond : WritesPair ("=", "") "%3D".toList := .bare (by decide) (.escaped hequals .nil)
  have hthird : WritesPair ("", "=&") ("".toList ++ '=' :: "=%26".toList) :=
    .full .nil (.literal (by decide) (.escaped hampersand .nil))
  have hfourth : WritesPair ("é", "") "é".toList := .bare (by decide) (.literal (by decide) .nil)
  exact .separator (.cons hfirst (.separator (.cons hsecond (.cons hthird (.cons hfourth .nil)))))

theorem decode_of_writesBody_mixed :
    WritesBody mixedPairs mixedBody.toList ∧
      decode mixedBody = .ok (.ofList [("é", ""), ("=", ""), ("", "=&")]) := by
  have hmap : OrderedMap.ofList mixedPairs = .ofList [("é", ""), ("=", ""), ("", "=&")] := by
    decide
  refine ⟨writesBody_mixed, ?_⟩
  rw [← hmap]
  exact (decode_of_writesBody writesBody_mixed).1

end WebForm.Urlencoded
