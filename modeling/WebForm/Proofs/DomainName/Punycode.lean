import Mathlib.Data.List.TakeWhile
import Mathlib.Tactic.Ring
import WebForm.DomainName.Punycode

/-!
# Punycode read back

The writer and the reader of Punycode walk over the same places: all places of the label that is
built so far, for one character number after the other. The writer counts the places that it passes
and writes the count where it inserts a character; the reader goes on by that count and inserts.

* `Behind` says that the reader is behind the writer by what the writer has counted. Every part of
  the writer keeps this, in a label of which the characters up to the writer's place are built.
* `basicOf`, `numbersOf`, `insertions` are the parts of a written label.

Results:
* `decodeNumber?_encodeNumber`: a count is read back, whatever follows.
* `decodeRounds?_insert`: one insertion.
* `decodeRounds?_encodeRound`, `decodeRounds?_encodeRounds`: one round, and all rounds.
* `parts_encode`: a written label is taken apart into its parts.
* `decode?_encode`: every label is read back.
* `isDigit_of_mem_insertions`: insertions are written in small letters and digits.
* `mem_encode`, `getLast?_encode`: the characters of a written label, and its last one.
-/

namespace WebForm.DomainName.Punycode

/-! ## Digits and numbers -/

/-- A small letter or a decimal digit. -/
def isDigit (c : Char) : Bool := c.isLower || c.isDigit

theorem digitValue?_digitChar {d : Nat} (h : d < 36) : digitValue? (digitChar d) = some d := by
  have hall : ∀ e : Fin 36, digitValue? (digitChar e) = some e.val := by decide
  exact hall ⟨d, h⟩

theorem isDigit_digitChar {d : Nat} (h : d < 36) : isDigit (digitChar d) = true := by
  have hall : ∀ e : Fin 36, isDigit (digitChar e) = true := by decide
  exact hall ⟨d, h⟩

/-- A place behind which more follows holds the digits from the threshold on. -/
theorem digit_lt (bias k q : Nat) :
    threshold k bias + (q - threshold k bias) % (36 - threshold k bias) < 36 := by
  have hle := threshold_le k bias
  have hmod : (q - threshold k bias) % (36 - threshold k bias) < 36 - threshold k bias :=
    Nat.mod_lt _ (by omega)
  omega

/-- **A number is read back**, with the weight and on top of the sum that the reader has. -/
theorem decodeNumber?_encodeNumber (bias k q weight i : Nat) (rest : List Char) :
    decodeNumber? bias (encodeNumber bias k q ++ rest) k weight i = some (i + q * weight, rest) := by
  fun_induction encodeNumber bias k q generalizing weight i with
  | case1 k q t hq =>
    have hle : t ≤ 26 := threshold_le k bias
    simp [decodeNumber?, digitValue?_digitChar (show q < 36 by omega), show q < threshold k bias from hq]
  | case2 k q t hq ih =>
    have hle : t ≤ 26 := threshold_le k bias
    have hsplit := Nat.mod_add_div (q - t) (36 - t)
    have hsum : q = t + (q - t) % (36 - t) + (36 - t) * ((q - t) / (36 - t)) := by omega
    have hnot : ¬ t + (q - t) % (36 - t) < t := Nat.not_lt.mpr (Nat.le_add_right _ _)
    rw [List.cons_append, decodeNumber?, digitValue?_digitChar (digit_lt bias k q)]
    simp only
    rw [if_neg hnot, ih]
    congr 2
    calc i + (t + (q - t) % (36 - t)) * weight + (q - t) / (36 - t) * (weight * (36 - t))
        = i + (t + (q - t) % (36 - t) + (36 - t) * ((q - t) / (36 - t))) * weight := by ring
      _ = i + q * weight := by rw [← hsum]

theorem encodeNumber_ne_nil (bias k q : Nat) : encodeNumber bias k q ≠ [] := by
  rw [encodeNumber]
  by_cases hq : q < threshold k bias
  · simp [hq]
  · simp [hq]

theorem isDigit_of_mem_encodeNumber {bias k q : Nat} {c : Char} (h : c ∈ encodeNumber bias k q) :
    isDigit c = true := by
  fun_induction encodeNumber bias k q with
  | case1 k q t hq =>
    have hle : t ≤ 26 := threshold_le k bias
    rw [List.mem_singleton.mp h]
    exact isDigit_digitChar (by omega)
  | case2 k q t hq ih =>
    rcases List.mem_cons.mp h with rfl | h
    · exact isDigit_digitChar (digit_lt bias k q)
    · exact ih h

/-! ## One insertion -/

/-- **One insertion.** A reader at place `i` of the character number `m` that reads a distance goes
on by it. When it comes to place `q` of the number of `c`, it inserts `c` there. -/
theorem decodeRounds?_insert {built : List Char} {bias m i q delta : Nat} {c : Char}
    (hdistance : delta + (m * (built.length + 1) + i) = c.toNat * (built.length + 1) + q)
    (hq : q ≤ built.length) (rest : List Char) :
    decodeRounds? built bias m i (encodeNumber bias 36 delta ++ rest) =
      decodeRounds? (built.take q ++ c :: built.drop q) (adapt delta (built.length + 1) (i == 0))
        c.toNat (q + 1) rest := by
  have hpos : 0 < built.length + 1 := Nat.succ_pos _
  have hlt : q < built.length + 1 := Nat.lt_succ_of_le hq
  have hwalk : i + delta + m * (built.length + 1) = q + c.toNat * (built.length + 1) := by omega
  have hnumber : m + (i + delta) / (built.length + 1) = c.toNat := by
    have h := congrArg (· / (built.length + 1)) hwalk
    simp only [Nat.add_mul_div_right _ _ hpos, Nat.div_eq_of_lt hlt] at h
    omega
  have hplace : (i + delta) % (built.length + 1) = q := by
    have h := congrArg (· % (built.length + 1)) hwalk
    simpa only [Nat.add_mul_mod_self_right, Nat.mod_eq_of_lt hlt] using h
  have hread := decodeNumber?_encodeNumber bias 36 delta 1 i rest
  obtain ⟨d, ds, hds⟩ := List.exists_cons_of_ne_nil (encodeNumber_ne_nil bias 36 delta)
  rw [hds, List.cons_append] at hread ⊢
  rw [decodeRounds?]
  split
  · rename_i hnone
    rw [hread] at hnone
    cases hnone
  · rename_i j left hsome
    rw [hread, Nat.mul_one] at hsome
    obtain ⟨rfl, rfl⟩ := Prod.mk.inj (Option.some.inj hsome)
    simp only [hnumber, hplace]
    have hvalid : c.toNat.isValidChar := c.valid
    rw [if_pos hvalid, Char.ofNat_toNat, Nat.add_sub_cancel_left]

/-! ## Rounds -/

/-- The reader has built the label that the writer has written about so far, and stands at place `i`
of the character number `m`. It is behind the writer, which stands at place `q` of the number `n`, by
the distance that the writer has counted since its last insertion. Both take the same insertion for
the first one. -/
structure Behind (basic : Nat) (w : Walk) (n q : Nat) (built : List Char) (m i : Nat) : Prop where
  placed : w.placed = built.length
  basic_le : basic ≤ built.length
  distance : w.delta + (m * (built.length + 1) + i) = n * (built.length + 1) + q
  first : (w.placed == basic) = (i == 0)

variable {basic n q m i : Nat} {w : Walk} {built : List Char}

/-- The writer passes a place. -/
theorem Behind.pass (h : Behind basic w n q built m i) :
    Behind basic { w with delta := w.delta + 1 } n (q + 1) built m i where
  placed := h.placed
  basic_le := h.basic_le
  distance := by
    have := h.distance
    show w.delta + 1 + _ = _
    omega
  first := h.first

/-- The writer goes from the last place of a number to the first place of the next. -/
theorem Behind.next (h : Behind basic w n built.length built m i) :
    Behind basic { w with delta := w.delta + 1 } (n + 1) 0 built m i where
  placed := h.placed
  basic_le := h.basic_le
  distance := by
    have := h.distance
    show w.delta + 1 + _ = (n + 1) * (built.length + 1) + 0
    rw [Nat.succ_mul]
    omega
  first := h.first

/-- The writer skips numbers that no character has. -/
theorem Behind.skip (h : Behind basic w n 0 built m i) {n' : Nat} (hn : n ≤ n') :
    Behind basic { w with delta := w.delta + (n' - n) * (w.placed + 1) } n' 0 built m i where
  placed := h.placed
  basic_le := h.basic_le
  distance := by
    have hnumber : n' * (built.length + 1) =
        (n' - n) * (built.length + 1) + n * (built.length + 1) := by
      rw [← Nat.add_mul, Nat.sub_add_cancel hn]
    have := h.distance
    show w.delta + (n' - n) * (w.placed + 1) + _ = _
    rw [h.placed]
    omega
  first := h.first

/-- The walk behind an insertion. -/
def Walk.inserted (w : Walk) (basic : Nat) : Walk :=
  { delta := 0, bias := adapt w.delta (w.placed + 1) (w.placed == basic), placed := w.placed + 1 }

/-- A character of the number of the round is inserted. -/
theorem encodeRound_self (basic : Nat) (c : Char) (cs : List Char) (w : Walk) :
    encodeRound c.toNat basic (c :: cs) w =
      (encodeNumber w.bias 36 w.delta ++ (encodeRound c.toNat basic cs (w.inserted basic)).1,
        (encodeRound c.toNat basic cs (w.inserted basic)).2) := by
  rw [encodeRound, if_neg (lt_irrefl _), if_pos rfl]
  rfl

/-- The writer inserts a character: both stand behind it. -/
theorem Behind.insert (h : Behind basic w n q built m i) {built' : List Char}
    (hlength : built'.length = built.length + 1) :
    Behind basic (w.inserted basic) n (q + 1) built' n (q + 1) where
  placed := by
    show w.placed + 1 = _
    rw [hlength, h.placed]
  basic_le := by
    have := h.basic_le
    omega
  distance := Nat.zero_add _
  first := by
    have hne : w.placed + 1 ≠ basic := by
      have := h.basic_le
      have := h.placed
      omega
    show (w.placed + 1 == basic) = (q + 1 == 0)
    rw [beq_false_of_ne hne]
    rfl

/-- **One round.** While the writer visits the characters `cs`, of which those with a smaller number
are built behind `front`, it writes how to insert those with the number `n` as well. -/
theorem decodeRounds?_encodeRound (basic n : Nat) : ∀ (cs front : List Char) (w : Walk) (m i : Nat),
    Behind basic w n front.length (front ++ cs.filter fun c => c.toNat < n) m i →
      let done := front ++ cs.filter fun c => c.toNat ≤ n
      let last := (encodeRound n basic cs w).2
      ∃ m' i', Behind basic last n done.length done m' i' ∧
        ∀ rest, decodeRounds? (front ++ cs.filter fun c => c.toNat < n) w.bias m i
            ((encodeRound n basic cs w).1 ++ rest) =
          decodeRounds? done last.bias m' i' rest
  | [], front, w, m, i, h => by
    refine ⟨m, i, ?_, fun rest => rfl⟩
    simpa [encodeRound] using h
  | c :: cs, front, w, m, i, h => by
    have hfront : (front ++ [c]).length = front.length + 1 := List.length_append
    by_cases hlt : c.toNat < n
    · have hle : c.toNat ≤ n := hlt.le
      simp only [List.filter_cons, hlt, hle, decide_true, if_true] at h ⊢
      rw [encodeRound, if_pos hlt]
      have hrest := decodeRounds?_encodeRound basic n cs (front ++ [c])
        { w with delta := w.delta + 1 } m i
      rw [hfront, List.append_assoc, List.append_assoc] at hrest
      exact hrest h.pass
    · by_cases heq : c.toNat = n
      · subst heq
        simp only [List.filter_cons, lt_irrefl, le_refl, decide_true, decide_false, if_true,
          if_false, Bool.false_eq_true] at h ⊢
        rw [encodeRound_self]
        have hrest := decodeRounds?_encodeRound basic c.toNat cs (front ++ [c]) (w.inserted basic)
          c.toNat (front.length + 1)
        rw [hfront, List.append_assoc, List.append_assoc] at hrest
        obtain ⟨m', i', hbehind, hread⟩ := hrest (h.insert (by simp; omega))
        refine ⟨m', i', hbehind, fun rest => ?_⟩
        have hplace : front.length ≤ (front ++ cs.filter fun d => d.toNat < c.toNat).length := by
          rw [List.length_append]
          exact Nat.le_add_right _ _
        rw [List.append_assoc, decodeRounds?_insert h.distance hplace, List.take_left,
          List.drop_left, ← h.placed, ← h.first]
        exact hread rest
      · have hle : ¬ c.toNat ≤ n := by omega
        simp only [List.filter_cons, hlt, hle, decide_false, if_false, Bool.false_eq_true] at h ⊢
        rw [encodeRound, if_neg hlt, if_neg heq]
        exact decodeRounds?_encodeRound basic n cs front w m i h

/-- **All rounds.** When every character from `reached` on has a round to come, in increasing order,
the reader builds the label. -/
theorem decodeRounds?_encodeRounds (label : List Char) (basic : Nat) :
    ∀ (ns : List Nat) (reached : Nat) (w : Walk) (m i : Nat),
      Behind basic w reached 0 (label.filter fun c => c.toNat < reached) m i →
      ns.Pairwise (· < ·) → (∀ n ∈ ns, reached ≤ n) →
      (∀ c ∈ label, reached ≤ c.toNat → c.toNat ∈ ns) →
      decodeRounds? (label.filter fun c => c.toNat < reached) w.bias m i
        (encodeRounds label basic ns reached w) = some label
  | [], reached, w, m, i, _, _, _, hall => by
    have hlabel : (label.filter fun c => c.toNat < reached) = label :=
      List.filter_eq_self.mpr fun c hc =>
        decide_eq_true (Nat.lt_of_not_le fun hle => List.not_mem_nil (hall c hc hle))
    rw [encodeRounds, decodeRounds?, hlabel]
  | n :: ns, reached, w, m, i, h, hsorted, hreached, hall => by
    obtain ⟨hfirst, hrest⟩ := List.pairwise_cons.mp hsorted
    have hn : reached ≤ n := hreached n List.mem_cons_self
    -- No character lies between the round before and this one.
    have hbetween : ∀ c ∈ label, c.toNat < n → c.toNat < reached := by
      intro c hc hlt
      by_contra hle
      rcases List.mem_cons.mp (hall c hc (Nat.le_of_not_lt hle)) with heq | hmem
      · omega
      · have := hfirst _ hmem
        omega
    have hsame : (label.filter fun c => c.toNat < reached) = label.filter fun c => c.toNat < n :=
      List.filter_congr fun c hc =>
        decide_eq_decide.mpr ⟨fun hlt => Nat.lt_of_lt_of_le hlt hn, hbetween c hc⟩
    have hsucc : (label.filter fun c => c.toNat ≤ n) = label.filter fun c => c.toNat < n + 1 :=
      List.filter_congr fun c _ => decide_eq_decide.mpr Nat.lt_succ_iff.symm
    rw [hsame] at h ⊢
    obtain ⟨m', i', hbehind, hread⟩ := decodeRounds?_encodeRound basic n label [] _ m i (h.skip hn)
    rw [List.nil_append, hsucc] at hbehind
    have htail := decodeRounds?_encodeRounds label basic ns (n + 1) _ m' i' hbehind.next hrest
      (fun k hk => hfirst k hk) fun c hc hle => by
        rcases List.mem_cons.mp (hall c hc (by omega)) with heq | hmem
        · omega
        · exact hmem
    rw [← htail]
    simp only [List.nil_append, hsucc] at hread
    exact hread _

/-! ## The parts of a written label -/

theorem mem_insertNumber {k n : Nat} {ns : List Nat} :
    k ∈ insertNumber n ns ↔ k = n ∨ k ∈ ns := by
  induction ns with
  | nil => simp [insertNumber]
  | cons m ms ih =>
    unfold insertNumber
    split_ifs with hlt heq
    · exact List.mem_cons
    · subst heq
      simp
    · rw [List.mem_cons, ih, List.mem_cons]
      tauto

theorem pairwise_insertNumber {n : Nat} {ns : List Nat} (h : ns.Pairwise (· < ·)) :
    (insertNumber n ns).Pairwise (· < ·) := by
  induction ns with
  | nil => simp [insertNumber]
  | cons m ms ih =>
    obtain ⟨hfirst, hrest⟩ := List.pairwise_cons.mp h
    unfold insertNumber
    split_ifs with hlt heq
    · refine List.pairwise_cons.mpr ⟨fun k hk => ?_, h⟩
      rcases List.mem_cons.mp hk with rfl | hk
      · exact hlt
      · exact hlt.trans (hfirst k hk)
    · exact h
    · refine List.pairwise_cons.mpr ⟨fun k hk => ?_, ih hrest⟩
      rcases mem_insertNumber.mp hk with rfl | hk
      · omega
      · exact hfirst k hk

/-- The ASCII characters of a label. -/
def basicOf (label : List Char) : List Char := label.filter fun c => c.toNat < 0x80

/-- The numbers of the other characters, in increasing order. -/
def numbersOf (label : List Char) : List Nat :=
  (label.filter fun c => 0x80 ≤ c.toNat).foldr (fun c ns => insertNumber c.toNat ns) []

/-- What is written about the other characters. -/
def insertions (label : List Char) : List Char :=
  encodeRounds label (basicOf label).length (numbersOf label) 0x80 ⟨0, 72, (basicOf label).length⟩

theorem encode_eq (label : List Char) : encode label =
    basicOf label ++ (if (basicOf label).isEmpty then [] else ['-']) ++ insertions label :=
  rfl

theorem pairwise_foldr_insertNumber (cs : List Char) :
    (cs.foldr (fun c ns => insertNumber c.toNat ns) []).Pairwise (· < ·) := by
  induction cs with
  | nil => exact List.Pairwise.nil
  | cons c cs ih => exact pairwise_insertNumber ih

theorem mem_foldr_insertNumber {cs : List Char} {k : Nat} :
    k ∈ cs.foldr (fun c ns => insertNumber c.toNat ns) [] ↔ ∃ c ∈ cs, c.toNat = k := by
  induction cs with
  | nil => simp
  | cons c cs ih =>
    rw [List.foldr_cons, mem_insertNumber, ih]
    simp [eq_comm]

theorem mem_numbersOf {label : List Char} {k : Nat} :
    k ∈ numbersOf label ↔ ∃ c ∈ label, 0x80 ≤ c.toNat ∧ c.toNat = k := by
  rw [numbersOf, mem_foldr_insertNumber]
  simp [and_assoc]

/-- **The insertions are read back** on top of the ASCII characters. -/
theorem decodeRounds?_insertions (label : List Char) :
    decodeRounds? (basicOf label) 72 0x80 0 (insertions label) = some label := by
  have hstart : Behind (basicOf label).length ⟨0, 72, (basicOf label).length⟩ 0x80 0
      (basicOf label) 0x80 0 :=
    { placed := rfl, basic_le := le_refl _, distance := Nat.zero_add _, first := by simp }
  refine decodeRounds?_encodeRounds label _ (numbersOf label) 0x80 _ 0x80 0 hstart
    (pairwise_foldr_insertNumber _) (fun n hn => ?_) fun c hc hle => ?_
  · obtain ⟨c, -, hle, rfl⟩ := mem_numbersOf.mp hn
    exact hle
  · exact mem_numbersOf.mpr ⟨c, hc, hle, rfl⟩

theorem isDigit_of_mem_encodeRound {basic n : Nat} {c : Char} {cs : List Char} {w : Walk}
    (h : c ∈ (encodeRound n basic cs w).1) : isDigit c = true := by
  induction cs generalizing w with
  | nil => exact absurd h List.not_mem_nil
  | cons d cs ih =>
    by_cases hlt : d.toNat < n
    · rw [encodeRound, if_pos hlt] at h
      exact ih h
    · by_cases heq : d.toNat = n
      · subst heq
        rw [encodeRound_self] at h
        rcases List.mem_append.mp h with h | h
        · exact isDigit_of_mem_encodeNumber h
        · exact ih h
      · rw [encodeRound, if_neg hlt, if_neg heq] at h
        exact ih h

theorem isDigit_of_mem_encodeRounds {label : List Char} {basic : Nat} {c : Char} :
    ∀ {ns : List Nat} {reached : Nat} {w : Walk},
      c ∈ encodeRounds label basic ns reached w → isDigit c = true
  | [], _, _, h => absurd h List.not_mem_nil
  | n :: ns, reached, w, h => by
    rw [encodeRounds] at h
    rcases List.mem_append.mp h with h | h
    · exact isDigit_of_mem_encodeRound h
    · exact isDigit_of_mem_encodeRounds h

/-- Insertions are written in small letters and digits. -/
theorem isDigit_of_mem_insertions {label : List Char} {c : Char} (h : c ∈ insertions label) :
    isDigit c = true :=
  isDigit_of_mem_encodeRounds h

theorem hyphen_not_mem_insertions (label : List Char) : '-' ∉ insertions label := fun h =>
  absurd (isDigit_of_mem_insertions h) (by decide)

/-- A written label is taken apart at its last hyphen, into the parts that were put together. -/
theorem parts_encode (label : List Char) :
    parts (encode label) = (basicOf label, insertions label) := by
  have hplain : ∀ c ∈ (insertions label).reverse, (c != '-') = true := by
    intro c hc
    have hne : c ≠ '-' := fun h =>
      hyphen_not_mem_insertions label (h ▸ List.mem_reverse.mp hc)
    simpa using hne
  rw [encode_eq]
  unfold parts
  by_cases hbasic : basicOf label = []
  · have hdrop : (insertions label).reverse.dropWhile (· != '-') = [] :=
      List.dropWhile_eq_nil_iff.mpr hplain
    simp [hbasic, hdrop]
  · -- The separator is the first hyphen from behind, and what follows there is not empty.
    have hreverse : (basicOf label ++ ['-'] ++ insertions label).reverse =
        (insertions label).reverse ++ '-' :: (basicOf label).reverse := by simp
    obtain ⟨c, cs, hcs⟩ :=
      List.exists_cons_of_ne_nil (fun h => hbasic (List.reverse_eq_nil_iff.mp h))
    have hstop : ('-' != '-') = false := rfl
    rw [List.isEmpty_eq_false_iff.mpr hbasic, if_neg Bool.false_ne_true, hreverse]
    simp only [List.takeWhile_append_of_pos hplain, List.dropWhile_append_of_pos hplain,
      List.takeWhile_cons, List.dropWhile_cons, hstop, hcs, Bool.false_eq_true, if_false]
    rw [← hcs, List.append_nil, List.reverse_reverse, List.reverse_reverse]

/-- **Every label is read back.** -/
theorem decode?_encode (label : List Char) : decode? (encode label) = some label := by
  rw [decode?, parts_encode]
  exact decodeRounds?_insertions label

/-- A label about which nothing is inserted is in ASCII. -/
theorem basicOf_of_insertions_eq_nil {label : List Char} (h : insertions label = []) :
    basicOf label = label := by
  have hread := decodeRounds?_insertions label
  rw [h, decodeRounds?] at hread
  exact Option.some.inj hread

/-- The characters of a written label: ASCII characters of the label, the hyphen, and digits. -/
theorem mem_encode {label : List Char} {c : Char} (h : c ∈ encode label) :
    (c ∈ label ∧ c.toNat < 0x80) ∨ c = '-' ∨ isDigit c = true := by
  rw [encode_eq, List.append_assoc] at h
  rcases List.mem_append.mp h with h | h
  · exact Or.inl (by simpa [basicOf] using h)
  · rcases List.mem_append.mp h with h | h
    · by_cases hempty : (basicOf label).isEmpty = true
      · simp [hempty] at h
      · simp only [hempty, Bool.false_eq_true, if_false, List.mem_singleton] at h
        exact Or.inr (Or.inl h)
    · exact Or.inr (Or.inr (isDigit_of_mem_insertions h))

/-- A label that is not in ASCII is written with a digit at its end. -/
theorem getLast?_encode {label : List Char} (h : basicOf label ≠ label) :
    (encode label).getLast? ≠ some '-' := by
  have hne : insertions label ≠ [] := fun hnil => h (basicOf_of_insertions_eq_nil hnil)
  rw [encode_eq, List.getLast?_append, List.getLast?_eq_some_getLast hne, Option.some_or]
  exact fun hlast => hyphen_not_mem_insertions label
    (Option.some.inj hlast ▸ List.getLast_mem hne)

end WebForm.DomainName.Punycode
