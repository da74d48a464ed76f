import WebForm.Proofs.Submission.Urlencoded
import WebForm.Proofs.Text.Utf8

/-!
# When a urlencoded body is refused

A component of a body stands for bytes, and those may be no text. What they are is said here without
the function that reads them, for every component, also one that nobody would write: a `%` that is
not followed by two hexadecimal digits stands for itself.

* `StandsFor component bs`: the bytes of a component, character by character.
* `ReadsAs component text`, `IsUnreadable component`: the bytes are those of the text; they are not
  UTF-8.
* `components body`: the keys and values of a body as submitted, from left to right.

Results:
* `standsFor_iff`: a component stands for exactly the bytes that it is read as.
* `decodeComponent_eq_ok_iff`, `decodeComponent_eq_error_iff`: what a component is read as, and when
  it is refused.
* `readsAs_append_percent_iff`, `isUnreadable_append_percent_iff`: a `%` without two digits stays in
  the text, and is never the reason of a refusal.
* `decode_eq_error_iff`: a body is refused iff one of its components is unreadable, and the error is
  the first such component as submitted.
-/

namespace WebForm.Urlencoded

open Text

/-! ## What a component stands for -/

/-- The text starts with two hexadecimal digits, each in either case. -/
def StartsWithDigits (cs : List Char) : Prop :=
  ∃ high low rest, cs = high :: low :: rest ∧
    (∃ n < 16, IsDigitOf n high) ∧ ∃ n < 16, IsDigitOf n low

/-- The bytes that a component stands for: `+` is a space, `%` and two digits are one byte, and any
other `%` is itself, as is every other character. -/
inductive StandsFor : List Char → List UInt8 → Prop
  | nil : StandsFor [] []
  | plus {cs : List Char} {bs : List UInt8} (h : StandsFor cs bs) :
    StandsFor ('+' :: cs) (0x20 :: bs)
  | escape {b : UInt8} {high low : Char} {cs : List Char} {bs : List UInt8}
    (hhigh : IsDigitOf (b.toNat / 16) high) (hlow : IsDigitOf (b.toNat % 16) low)
    (h : StandsFor cs bs) : StandsFor ('%' :: high :: low :: cs) (b :: bs)
  | percent {cs : List Char} {bs : List UInt8} (hno : ¬ StartsWithDigits cs) (h : StandsFor cs bs) :
    StandsFor ('%' :: cs) (0x25 :: bs)
  | literal {c : Char} {cs : List Char} {bs : List UInt8} (hplus : c ≠ '+') (hpercent : c ≠ '%')
    (h : StandsFor cs bs) : StandsFor (c :: cs) (Utf8.encodeChar c ++ bs)

theorem isDigitOf_of_digit? {c : Char} {n : Nat} (h : Hexadecimal.digit? c = some n) :
    IsDigitOf n c := by
  have hn := Hexadecimal.digit?_lt h
  have hupper : ∀ n < 16, 10 ≤ n → (Hexadecimal.digitChar n).toUpper = Char.ofNat (n + 0x37) := by
    decide
  unfold Hexadecimal.digit? at h
  split at h
  · rename_i hdigit
    have hle : 48 ≤ c.toNat ∧ c.toNat ≤ 57 := by
      simpa [Char.isDigit, UInt32.le_iff_toNat_le] using hdigit
    have hc : c.toNat - 48 = n := Option.some.inj h
    left
    rw [Hexadecimal.digitChar, if_pos (by omega), show n + 0x30 = c.toNat by omega,
      Char.ofNat_toNat]
  split at h
  · rename_i hlower
    have hle : 97 ≤ c.toNat ∧ c.toNat ≤ 102 := hlower
    have hc : c.toNat - 97 + 10 = n := Option.some.inj h
    left
    rw [Hexadecimal.digitChar, if_neg (by omega), show n + 0x57 = c.toNat by omega,
      Char.ofNat_toNat]
  split at h
  · rename_i hupper'
    have hle : 65 ≤ c.toNat ∧ c.toNat ≤ 70 := hupper'
    have hc : c.toNat - 65 + 10 = n := Option.some.inj h
    right
    rw [hupper n hn (by omega), show n + 0x37 = c.toNat by omega, Char.ofNat_toNat]
  · exact absurd h (by simp)

theorem escaped?_eq_some_iff {high low : Char} {b : UInt8} : escaped? high low = some b ↔
    IsDigitOf (b.toNat / 16) high ∧ IsDigitOf (b.toNat % 16) low := by
  refine ⟨fun h => ?_, fun h => escaped?_of_isDigitOf h.1 h.2⟩
  obtain ⟨m, hm, hb⟩ := Option.bind_eq_some_iff.mp h
  obtain ⟨n, hn, hb⟩ := Option.bind_eq_some_iff.mp hb
  have hm16 := Hexadecimal.digit?_lt hm
  have hn16 := Hexadecimal.digit?_lt hn
  have hb : b.toNat = m * 16 + n := by
    rw [← Option.some.inj hb]
    exact Utf8.toNat_toUInt8 (by omega)
  rw [hb, show (m * 16 + n) / 16 = m by omega, show (m * 16 + n) % 16 = n by omega]
  exact ⟨isDigitOf_of_digit? hm, isDigitOf_of_digit? hn⟩

/-- Two characters escape a byte iff they are digits. -/
theorem exists_escaped?_iff {high low : Char} {rest : List Char} :
    (∃ b, escaped? high low = some b) ↔ StartsWithDigits (high :: low :: rest) := by
  constructor
  · rintro ⟨b, hb⟩
    have hlt : b.toNat < 256 := b.toNat_lt
    obtain ⟨hhigh, hlow⟩ := escaped?_eq_some_iff.mp hb
    exact ⟨high, low, rest, rfl, ⟨_, by omega, hhigh⟩, ⟨_, by omega, hlow⟩⟩
  · rintro ⟨high', low', rest', heq, ⟨m, hm, hhigh⟩, ⟨n, hn, hlow⟩⟩
    simp only [List.cons.injEq] at heq
    obtain ⟨rfl, rfl, rfl⟩ := heq
    refine ⟨(m * 16 + n).toUInt8, escaped?_eq_some_iff.mpr ?_⟩
    rw [Utf8.toNat_toUInt8 (by omega), show (m * 16 + n) / 16 = m by omega,
      show (m * 16 + n) % 16 = n by omega]
    exact ⟨hhigh, hlow⟩

instance : (cs : List Char) → Decidable (StartsWithDigits cs)
  | [] | [_] => .isFalse fun ⟨_, _, _, h, _⟩ => by simp at h
  | high :: low :: rest =>
    decidable_of_iff ((escaped? high low).isSome = true) (by
      rw [Option.isSome_iff_exists, exists_escaped?_iff])

/-- A `%` is no digit, so a text without two digits has none in front of it either. -/
theorem not_startsWithDigits_append {cs : List Char} (h : ¬ StartsWithDigits cs)
    (after : List Char) : ¬ StartsWithDigits (cs ++ '%' :: after) := by
  have hpercent : ∀ n < 16, ¬ IsDigitOf n '%' := by decide
  rintro ⟨high, low, rest, heq, ⟨m, hm, hhigh⟩, ⟨n, hn, hlow⟩⟩
  match cs, heq with
  | [], heq =>
    obtain ⟨rfl, -⟩ := List.cons.inj heq
    exact hpercent m hm hhigh
  | [c], heq =>
    simp only [List.cons_append, List.nil_append, List.cons.injEq] at heq
    obtain ⟨-, rfl, -⟩ := heq
    exact hpercent n hn hlow
  | c :: d :: cs, heq =>
    simp only [List.cons_append, List.cons.injEq] at heq
    obtain ⟨rfl, rfl, -⟩ := heq
    exact h ⟨c, d, cs, rfl, ⟨m, hm, hhigh⟩, ⟨n, hn, hlow⟩⟩

theorem bytes_percent {cs : List Char} (h : ¬ StartsWithDigits cs) :
    bytes ('%' :: cs) = 0x25 :: bytes cs := by
  rw [bytes.eq_def]
  split
  · contradiction
  · rename_i heq
    simp at heq
  · rename_i high low rest heq
    obtain rfl := (List.cons.inj heq).2
    have hnone : escaped? high low = none := by
      rw [Option.eq_none_iff_forall_ne_some]
      exact fun b hb => h (exists_escaped?_iff.mp ⟨b, hb⟩)
    rw [hnone]
    rfl
  · rename_i heq
    obtain ⟨rfl, rfl⟩ := List.cons.inj heq
    rfl

/-- Every component stands for the bytes that it is read as. -/
theorem standsFor_bytes (cs : List Char) : StandsFor cs (bytes cs) := by
  fun_induction bytes cs with
  | case1 => exact .nil
  | case2 cs ih => exact .plus ih
  | case3 high low cs b hb ih =>
    obtain ⟨hhigh, hlow⟩ := escaped?_eq_some_iff.mp hb
    exact .escape hhigh hlow ih
  | case4 high low cs hb ih =>
    refine .percent (fun h => ?_) ih
    obtain ⟨b, hb'⟩ := exists_escaped?_iff.mpr h
    exact absurd (hb.symm.trans hb') (by simp)
  | case5 c cs hplus hpercent ih =>
    by_cases hc : c = '%'
    · subst hc
      refine .percent ?_ ih
      rintro ⟨high, low, rest, rfl, -⟩
      exact hpercent high low rest rfl rfl
    · exact .literal hplus hc ih

/-- **A component stands for exactly the bytes that it is read as.** -/
theorem standsFor_iff {cs : List Char} {bs : List UInt8} : StandsFor cs bs ↔ bytes cs = bs := by
  constructor
  · intro h
    induction h with
    | nil => rfl
    | plus _ ih => rw [bytes, ih]
    | escape hhigh hlow _ ih =>
      rw [bytes, escaped?_of_isDigitOf hhigh hlow]
      simp only
      rw [ih]
    | percent hno _ ih => rw [bytes_percent hno, ih]
    | literal hplus hpercent _ ih => rw [bytes_cons_of_ne hplus hpercent, ih]
  · rintro rfl
    exact standsFor_bytes cs

/-! ## What a component is read as -/

/-- The component reads as the text: it stands for its bytes. -/
def ReadsAs (component : List Char) (text : String) : Prop :=
  StandsFor component (Utf8.encodeString text)

/-- The component stands for bytes that are not UTF-8. -/
def IsUnreadable (component : List Char) : Prop :=
  ∃ bs, StandsFor component bs ∧ ¬ bs.toByteArray.IsValidUTF8

variable {component before after : List Char} {text : String}

theorem decodeComponent_eq_ok_iff :
    decodeComponent component = .ok text ↔ ReadsAs component text := by
  rw [ReadsAs, standsFor_iff, @eq_comm _ (bytes component), ← Utf8.decodeString?_eq_some_iff]
  unfold decodeComponent
  split <;> simp_all

/-- A component is unreadable iff it reads as no text. -/
theorem isUnreadable_iff : IsUnreadable component ↔ ∀ text, ¬ ReadsAs component text := by
  simp only [IsUnreadable, ReadsAs, standsFor_iff, Utf8.isValidUTF8_iff]
  simp [eq_comm]

/-- **A component that is refused is reported as it was submitted.** -/
theorem decodeComponent_eq_error_iff {e : InvalidEncoding} :
    decodeComponent component = .error e ↔
      IsUnreadable component ∧ e = ⟨String.ofList component⟩ := by
  rw [isUnreadable_iff]
  simp only [← decodeComponent_eq_ok_iff]
  unfold decodeComponent
  split <;> simp [eq_comm]

instance : Decidable (ReadsAs component text) :=
  decidable_of_iff (bytes component = Utf8.encodeString text) standsFor_iff.symm

instance : Decidable (IsUnreadable component) :=
  decidable_of_iff (decodeComponent component = .error ⟨String.ofList component⟩) (by
    rw [decodeComponent_eq_error_iff, and_iff_left rfl])

/-! ## Malformed escapes -/

theorem StandsFor.append_percent {xs ys : List UInt8} (h : StandsFor before xs)
    (hafter : StandsFor ('%' :: after) ys) : StandsFor (before ++ '%' :: after) (xs ++ ys) := by
  induction h with
  | nil => exact hafter
  | plus _ ih => exact .plus ih
  | escape hhigh hlow _ ih => exact .escape hhigh hlow ih
  | percent hno _ ih => exact .percent (not_startsWithDigits_append hno after) ih
  | literal hplus hpercent _ ih =>
    rw [List.append_assoc]
    exact .literal hplus hpercent ih

/-- **A malformed escape stays in the text**, between what is around it. -/
theorem readsAs_append_percent_iff (h : ¬ StartsWithDigits after) :
    ReadsAs (before ++ '%' :: after) text ↔
      ∃ s t, ReadsAs before s ∧ ReadsAs after t ∧ text = s ++ "%" ++ t := by
  have hbytes : bytes (before ++ '%' :: after) = bytes before ++ 0x25 :: bytes after :=
    standsFor_iff.mp ((standsFor_bytes before).append_percent (.percent h (standsFor_bytes after)))
  have hpercent : (0x25 : UInt8) = '%'.toNat.toUInt8 := rfl
  simp only [ReadsAs, standsFor_iff, hbytes]
  rw [eq_comm, Utf8.encodeString, hpercent, Utf8.encode_eq_append_cons_iff (by decide)]
  constructor
  · rintro ⟨s, t, htext, hs, ht⟩
    refine ⟨String.ofList s, String.ofList t, ?_, ?_, ?_⟩
    · rw [← hs, Utf8.encodeString, String.toList_ofList]
    · rw [← ht, Utf8.encodeString, String.toList_ofList]
    · rw [← String.toList_inj, htext]
      simp
  · rintro ⟨s, t, hs, ht, rfl⟩
    exact ⟨s.toList, t.toList, by simp, hs.symm, ht.symm⟩

/-- **A malformed escape is never the reason of a refusal.** -/
theorem isUnreadable_append_percent_iff (h : ¬ StartsWithDigits after) :
    IsUnreadable (before ++ '%' :: after) ↔ IsUnreadable before ∨ IsUnreadable after := by
  simp only [isUnreadable_iff, readsAs_append_percent_iff h]
  constructor
  · intro hnone
    by_contra hboth
    push Not at hboth
    obtain ⟨⟨s, hs⟩, ⟨t, ht⟩⟩ := hboth
    exact hnone _ ⟨s, t, hs, ht, rfl⟩
  · rintro (hbefore | hafter) text ⟨s, t, hs, ht, -⟩
    · exact hbefore s hs
    · exact hafter t ht

/-! ## Bodies -/

/-- The components of a body, from left to right: of each pair the key and then the value. -/
def components (body : List Char) : List (List Char) :=
  (pairs body).flatMap fun pair => [pair.1, pair.2]

/-- The two components of a pair read as the key and the value of an entry. -/
def ReadsAsEntry (pair : List Char × List Char) (entry : String × String) : Prop :=
  ReadsAs pair.1 entry.1 ∧ ReadsAs pair.2 entry.2

/-- The error of a component, when it is refused. -/
def refusal? (component : List Char) : Option InvalidEncoding :=
  match decodeComponent component with
  | .ok _ => none
  | .error e => some e

theorem refusal?_eq_some_iff {e : InvalidEncoding} :
    refusal? component = some e ↔ IsUnreadable component ∧ e = ⟨String.ofList component⟩ := by
  rw [← decodeComponent_eq_error_iff]
  unfold refusal?
  cases decodeComponent component <;> simp

theorem refusal?_eq_none_iff : refusal? component = none ↔ ¬ IsUnreadable component := by
  rw [Option.eq_none_iff_forall_ne_some]
  simp [refusal?_eq_some_iff]

/-- Pairs are refused for the first of their components that is. -/
theorem mapM_decodePair_eq_error_iff {e : InvalidEncoding} : ∀ ps : List (List Char × List Char),
    ps.mapM decodePair = .error e ↔
      (ps.flatMap fun pair => [pair.1, pair.2]).findSome? refusal? = some e
  | [] => by simp [pure, Except.pure]
  | pair :: ps => by
    have ih := mapM_decodePair_eq_error_iff (e := e) ps
    rw [List.mapM_cons, decodePair, List.flatMap_cons, List.cons_append, List.cons_append,
      List.nil_append, List.findSome?_cons, List.findSome?_cons]
    cases hkey : decodeComponent pair.1 with
    | error e' => simp [refusal?, hkey, bind, Except.bind]
    | ok key =>
      cases hvalue : decodeComponent pair.2 with
      | error e' => simp [refusal?, hkey, hvalue, bind, Except.bind]
      | ok value =>
        simp only [refusal?, hkey, hvalue]
        rw [← ih]
        cases ps.mapM decodePair <;> simp [bind, Except.bind, pure, Except.pure]

theorem decodePair_eq_ok_iff {pair : List Char × List Char} {entry : String × String} :
    decodePair pair = .ok entry ↔ ReadsAsEntry pair entry := by
  obtain ⟨key, value⟩ := entry
  rw [ReadsAsEntry, ← decodeComponent_eq_ok_iff, ← decodeComponent_eq_ok_iff, decodePair]
  cases decodeComponent pair.1 with
  | error e => simp [bind, Except.bind]
  | ok key' =>
    cases decodeComponent pair.2 <;> simp [bind, Except.bind, pure, Except.pure]

/-- Pairs that are not refused are read one by one. -/
theorem mapM_decodePair_eq_ok_iff : ∀ {ps : List (List Char × List Char)}
    {entries : List (String × String)},
    ps.mapM decodePair = .ok entries ↔ List.Forall₂ ReadsAsEntry ps entries
  | [], entries => by simp [pure, Except.pure, eq_comm]
  | pair :: ps, entries => by
    have ih (rest : List (String × String)) :
        ps.mapM decodePair = .ok rest ↔ List.Forall₂ ReadsAsEntry ps rest :=
      mapM_decodePair_eq_ok_iff
    rw [List.mapM_cons, List.forall₂_cons_left_iff]
    simp only [← decodePair_eq_ok_iff, ← ih]
    cases decodePair pair with
    | error e => simp [bind, Except.bind]
    | ok entry =>
      cases ps.mapM decodePair <;> simp [bind, Except.bind, pure, Except.pure, eq_comm]

/-- **A body is refused iff one of its components is not UTF-8.** The error is the first such
component from left to right, as it was submitted. A body that is not refused holds what its pairs
read as. A `%` that is not followed by two digits is never the reason: what it stands in is
unreadable iff the text before it or behind it is, and otherwise has the `%` between the two. -/
theorem decode_eq_error_iff (body : String) :
    ((∃ e, decode body = .error e) ↔ ∃ c ∈ components body.toList, IsUnreadable c) ∧
    (∀ e, decode body = .error e ↔
      ∃ before c after, components body.toList = before ++ c :: after ∧
        (∀ earlier ∈ before, ¬ IsUnreadable earlier) ∧ IsUnreadable c ∧ e = ⟨String.ofList c⟩) ∧
    (∀ data, decode body = .ok data ↔
      ∃ entries, List.Forall₂ ReadsAsEntry (pairs body.toList) entries ∧
        data = OrderedMap.ofList entries) ∧
    ∀ before after : List Char, ¬ StartsWithDigits after →
      (IsUnreadable (before ++ '%' :: after) ↔ IsUnreadable before ∨ IsUnreadable after) ∧
      ∀ text, ReadsAs (before ++ '%' :: after) text ↔
        ∃ s t, ReadsAs before s ∧ ReadsAs after t ∧ text = s ++ "%" ++ t := by
  have herror : ∀ e, decode body = .error e ↔
      (components body.toList).findSome? refusal? = some e := by
    intro e
    rw [components, ← mapM_decodePair_eq_error_iff, decode]
    cases (pairs body.toList).mapM decodePair <;> simp [bind, Except.bind, pure, Except.pure]
  refine ⟨?_, fun e => ?_, fun data => ?_, fun before after h =>
    ⟨isUnreadable_append_percent_iff h, fun text => readsAs_append_percent_iff h⟩⟩
  · simp only [herror]
    rw [← Option.isSome_iff_exists, List.findSome?_isSome_iff]
    simp [Option.isSome_iff_exists, refusal?_eq_some_iff]
  · rw [herror, List.findSome?_eq_some_iff]
    simp only [refusal?_eq_some_iff, refusal?_eq_none_iff]
    constructor
    · rintro ⟨before, c, after, hlist, ⟨hc, he⟩, hbefore⟩
      exact ⟨before, c, after, hlist, hbefore, hc, he⟩
    · rintro ⟨before, c, after, hlist, hbefore, hc, he⟩
      exact ⟨before, c, after, hlist, ⟨hc, he⟩, hbefore⟩
  · simp only [← mapM_decodePair_eq_ok_iff]
    rw [decode]
    cases (pairs body.toList).mapM decodePair <;>
      simp [bind, Except.bind, pure, Except.pure, eq_comm]

/-- A body with malformed and truncated escapes, of which two components are no UTF-8. -/
def brokenBody : String := "a%%41=%4&&b+%ff%zz=1&c=%fe"

theorem decode_eq_error_iff_broken :
    decode brokenBody = .error ⟨"b+%ff%zz"⟩ ∧ ¬ StartsWithDigits "%41".toList ∧
      ReadsAs ("a".toList ++ '%' :: "%41".toList) "a%A" := by
  obtain ⟨-, herror, -, hmalformed⟩ := decode_eq_error_iff brokenBody
  have hsecond : ¬ StartsWithDigits "%41".toList := by decide
  have hletters : ¬ StartsWithDigits "zz".toList := by decide
  have hrefused : IsUnreadable ("b+%ff".toList ++ '%' :: "zz".toList) :=
    (hmalformed _ _ hletters).1.mpr (Or.inl (by decide +kernel))
  refine ⟨(herror _).mpr ?_, hsecond, ((hmalformed _ _ hsecond).2 _).mpr ?_⟩
  · exact ⟨["a%%41".toList, "%4".toList], _, ["1".toList, "c".toList, "%fe".toList],
      by decide +kernel, by decide +kernel, hrefused, by decide +kernel⟩
  · exact ⟨"a", "A", by decide +kernel, by decide +kernel, by decide +kernel⟩

end WebForm.Urlencoded
