import Mathlib.Tactic.SplitIfs
import WebForm.Json.Quoted

/-!
# The spelling and the meaning of string literals

A literal can be written in many ways: a character as itself, a backslash and a letter, a backslash
and four digits. What is written is read as pieces, and the pieces stand for characters. The two
steps are described here apart from their readers, and the readers are shown to do just that.

* `SpellsPiece` lists the ways to write a piece, and `SpellsPieces` puts them one after the other.
* `utf16` gives the UTF-16 units of a character, and `StandsFor` says which characters pieces stand
  for: a character is a piece of its own, or as many escapes as it has units.

Results:
* `readPieces_of_spells`, `exists_spells_of_readPieces`: a literal is read up to its closing quote,
  and whatever is read as a literal is spelled as one.
* `decodePieces_of_standsFor`, `standsFor_of_decodePieces`: pieces decode to what they stand for,
  and to nothing else.
* `spellsPieces_quote`, `text?_piecesOf`: the literal that is written for a string stands for it.
-/

namespace WebForm.Json

open Text

/-! ## The spelling of literals -/

/-- The letters that may follow a backslash, each with the character that it stands for. -/
def letters : List (Char × Char) :=
  [('"', '"'), ('\\', '\\'), ('/', '/'), ('b', '\x08'), ('f', '\x0c'), ('n', '\n'), ('r', '\r'),
    ('t', '\t')]

/-- The ways to write a piece of a literal. -/
inductive SpellsPiece : List Char → Piece → Prop
  /-- The character itself. -/
  | raw {c : Char} (hlow : 0x20 ≤ c.toNat) (hquote : c ≠ '"') (hbackslash : c ≠ '\\') :
    SpellsPiece [c] (.char c)
  /-- A backslash and a letter. -/
  | letter {l c : Char} (h : (l, c) ∈ letters) : SpellsPiece ['\\', l] (.char c)
  /-- Four hexadecimal digits, in either case. -/
  | digits {a b c d : Char} {i j k l : Nat} (ha : Hexadecimal.digit? a = some i)
    (hb : Hexadecimal.digit? b = some j) (hc : Hexadecimal.digit? c = some k)
    (hd : Hexadecimal.digit? d = some l) :
    SpellsPiece ['\\', 'u', a, b, c, d] (.unit (((i * 16 + j) * 16 + k) * 16 + l))

/-- What may stand between the quotes of a literal. -/
inductive SpellsPieces : List Char → List Piece → Prop
  | nil : SpellsPieces [] []
  | cons {cs rest : List Char} {piece : Piece} {pieces : List Piece} (h : SpellsPiece cs piece)
    (hrest : SpellsPieces rest pieces) : SpellsPieces (cs ++ rest) (piece :: pieces)

theorem escaped?_of_mem_letters {l c : Char} (h : (l, c) ∈ letters) :
    escaped? l = some c ∧ l ≠ 'u' := by
  have hall : ∀ e ∈ letters, escaped? e.1 = some e.2 ∧ e.1 ≠ 'u' := by decide
  exact hall _ h

/-- A piece is read as such, whatever follows it in the literal. -/
theorem readPieces_of_spellsPiece {cs : List Char} {piece : Piece} (hspell : SpellsPiece cs piece)
    {rest rest' : List Char} {pieces : List Piece} (h : readPieces rest = some (pieces, rest')) :
    readPieces (cs ++ rest) = some (piece :: pieces, rest') := by
  cases hspell with
  | raw hlow hquote hbackslash => simp [readPieces, isRaw, hlow, hbackslash, h]
  | letter hletter =>
    obtain ⟨hescaped, hu⟩ := escaped?_of_mem_letters hletter
    simp [readPieces, hu, hescaped, h]
  | digits ha hb hc hd => simp [readPieces, Hexadecimal.number?, ha, hb, hc, hd, h]

/-- A literal is read up to its closing quote. -/
theorem readPieces_of_spells {cs : List Char} {pieces : List Piece} (h : SpellsPieces cs pieces)
    (rest : List Char) : readPieces (cs ++ '"' :: rest) = some (pieces, rest) := by
  induction h with
  | nil => rfl
  | cons hpiece _ ih =>
    rw [List.append_assoc]
    exact readPieces_of_spellsPiece hpiece ih

theorem mem_letters_of_escaped? {l c : Char} (h : escaped? l = some c) : (l, c) ∈ letters := by
  unfold escaped? at h
  split_ifs at h with hl hl hl hl hl hl hl hl <;> cases h <;> subst hl <;> decide

theorem spellsPiece_of_number? {a b c d : Char} {u : Nat}
    (h : Hexadecimal.number? [a, b, c, d] = some u) :
    SpellsPiece ['\\', 'u', a, b, c, d] (.unit u) := by
  simp only [Hexadecimal.number?, List.foldlM_cons, List.foldlM_nil, bind, pure,
    Option.bind_eq_some_iff, Option.map_eq_some_iff] at h
  obtain ⟨_, ⟨i, ha, rfl⟩, _, ⟨j, hb, rfl⟩, _, ⟨k, hc, rfl⟩, _, ⟨l, hd, rfl⟩, h⟩ := h
  cases h
  have hspell := SpellsPiece.digits ha hb hc hd
  rwa [Nat.zero_mul, Nat.zero_add]

/-- What is read as pieces, up to a closing quote, is spelled as such. -/
theorem exists_spells_of_readPieces {cs rest : List Char} {pieces : List Piece}
    (h : readPieces cs = some (pieces, rest)) :
    ∃ literal, cs = literal ++ '"' :: rest ∧ SpellsPieces literal pieces := by
  have hcons : ∀ {front cs piece pieces}, SpellsPiece front piece →
      (∃ literal, cs = literal ++ '"' :: rest ∧ SpellsPieces literal pieces) →
      ∃ literal, front ++ cs = literal ++ '"' :: rest ∧ SpellsPieces literal (piece :: pieces) := by
    rintro front _ piece pieces hpiece ⟨literal, rfl, hliteral⟩
    exact ⟨front ++ literal, (List.append_assoc _ _ _).symm, .cons hpiece hliteral⟩
  fun_induction readPieces cs generalizing pieces with
  | case2 =>
    cases h
    exact ⟨[], rfl, .nil⟩
  | case3 a b c d cs u pieces rest hread hnumber ih =>
    cases h
    exact hcons (spellsPiece_of_number? hnumber) (ih hread)
  | case5 letter cs _ c pieces rest hread hescaped ih =>
    cases h
    exact hcons (.letter (mem_letters_of_escaped? hescaped)) (ih hread)
  | case7 c cs hquote _ _ hraw pieces rest hread ih =>
    cases h
    simp only [isRaw, Bool.and_eq_true, decide_eq_true_eq, bne_iff_ne] at hraw
    exact hcons (.raw hraw.1 hquote hraw.2) (ih hread)
  | case1 | case4 | case6 | case8 | case9 => cases h

/-- The units of a literal have sixteen bits. -/
theorem unit_lt_of_spells {cs : List Char} {pieces : List Piece} (h : SpellsPieces cs pieces)
    {u : Nat} (hu : .unit u ∈ pieces) : u < 0x10000 := by
  induction h with
  | nil => exact absurd hu List.not_mem_nil
  | cons hpiece _ ih =>
    rcases List.mem_cons.mp hu with rfl | hu
    · cases hpiece with
      | digits ha hb hc hd =>
        have := Hexadecimal.digit?_lt ha
        have := Hexadecimal.digit?_lt hb
        have := Hexadecimal.digit?_lt hc
        have := Hexadecimal.digit?_lt hd
        omega
    · exact ih hu

/-! ## The meaning of literals -/

/-- The UTF-16 units of a character: its number, or two surrogates. -/
def utf16 (c : Char) : List Nat :=
  if c.toNat < 0x10000 then [c.toNat]
  else [0xD800 + (c.toNat - 0x10000) / 0x400, 0xDC00 + (c.toNat - 0x10000) % 0x400]

/-- The characters that pieces stand for. -/
inductive StandsFor : List Piece → List Char → Prop
  | nil : StandsFor [] []
  /-- A character of its own. -/
  | char (c : Char) {pieces : List Piece} {cs : List Char} (h : StandsFor pieces cs) :
    StandsFor (.char c :: pieces) (c :: cs)
  /-- An escape for each of its units. -/
  | units (c : Char) {pieces : List Piece} {cs : List Char} (h : StandsFor pieces cs) :
    StandsFor ((utf16 c).map .unit ++ pieces) (c :: cs)

/-- No character has a surrogate for its number. -/
theorem toNat_not_surrogate (c : Char) :
    c.toNat < 0xD800 ∨ 0xDFFF < c.toNat ∧ c.toNat < 0x110000 := c.valid

/-- A unit that is no surrogate stands alone, whatever follows it. -/
theorem decodePieces_unit {u : Nat} (h : u < 0xD800 ∨ 0xDFFF < u) (pieces : List Piece) :
    decodePieces (.unit u :: pieces) = (decodePieces pieces).map (Char.ofNat u :: ·) := by
  have hleading : isLeading u = false := by simp [isLeading]; omega
  have htrailing : isTrailing u = false := by simp [isTrailing]; omega
  cases pieces with
  | nil => simp [decodePieces, hleading, htrailing]
  | cons piece pieces => cases piece <;> simp [decodePieces, hleading, htrailing]

/-- The escapes of a character are read as that character, whatever follows them. -/
theorem decodePieces_utf16 (c : Char) (pieces : List Piece) :
    decodePieces ((utf16 c).map .unit ++ pieces) = (decodePieces pieces).map (c :: ·) := by
  have hc := toNat_not_surrogate c
  by_cases hlow : c.toNat < 0x10000
  · rw [utf16, if_pos hlow]
    show decodePieces (.unit c.toNat :: pieces) = _
    rw [decodePieces_unit (by omega), Char.ofNat_toNat]
  · have hleading : isLeading (0xD800 + (c.toNat - 0x10000) / 0x400) = true := by
      simp [isLeading]; omega
    have htrailing : isTrailing (0xDC00 + (c.toNat - 0x10000) % 0x400) = true := by
      simp [isTrailing]; omega
    have hpair : ofPair (0xD800 + (c.toNat - 0x10000) / 0x400)
        (0xDC00 + (c.toNat - 0x10000) % 0x400) = c := by
      refine (congrArg Char.ofNat ?_).trans (Char.ofNat_toNat c)
      omega
    rw [utf16, if_neg hlow]
    simp only [List.map_cons, List.map_nil, List.cons_append, List.nil_append, decodePieces,
      hleading, htrailing, if_true, hpair]

/-- Pieces decode to what they stand for. -/
theorem decodePieces_of_standsFor {pieces : List Piece} {cs : List Char}
    (h : StandsFor pieces cs) : decodePieces pieces = some cs := by
  induction h with
  | nil => rfl
  | char c _ ih => rw [decodePieces, ih, Option.map_some]
  | units c _ ih => rw [decodePieces_utf16, ih, Option.map_some]

theorem toNat_ofNat_of_lt {n : Nat} (h : n < 0xD800 ∨ 0xDFFF < n ∧ n < 0x110000) :
    (Char.ofNat n).toNat = n := by
  unfold Char.ofNat
  rw [dif_pos h]
  rfl

theorem utf16_ofNat {u : Nat} (h : u < 0xD800 ∨ 0xDFFF < u) (hu : u < 0x10000) :
    utf16 (Char.ofNat u) = [u] := by
  rw [utf16, toNat_ofNat_of_lt (by omega), if_pos hu]

theorem utf16_ofPair {u v : Nat} (hu : isLeading u = true) (hv : isTrailing v = true) :
    utf16 (ofPair u v) = [u, v] := by
  simp only [isLeading, isTrailing, Bool.and_eq_true, decide_eq_true_eq] at hu hv
  have hfirst : 0xD800 + (0x10000 + (u - 0xD800) * 0x400 + (v - 0xDC00) - 0x10000) / 0x400 = u := by
    omega
  have hsecond : 0xDC00 + (0x10000 + (u - 0xD800) * 0x400 + (v - 0xDC00) - 0x10000) % 0x400 = v := by
    omega
  rw [utf16, ofPair, toNat_ofNat_of_lt (by omega), if_neg (by omega), hfirst, hsecond]

/-- A unit that is no surrogate stands for the character of its number. -/
theorem StandsFor.unit {u : Nat} (hu : isLeading u = false ∧ isTrailing u = false)
    (hlt : u < 0x10000) {pieces : List Piece} {cs : List Char} (h : StandsFor pieces cs) :
    StandsFor (.unit u :: pieces) (Char.ofNat u :: cs) := by
  simp only [isLeading, isTrailing, Bool.and_eq_false_iff, decide_eq_false_iff_not] at hu
  have hunits := StandsFor.units (Char.ofNat u) h
  rwa [utf16_ofNat (by omega) hlt] at hunits

/-- Pieces decode to nothing but what they stand for. -/
theorem standsFor_of_decodePieces {pieces : List Piece}
    (hunits : ∀ u, .unit u ∈ pieces → u < 0x10000) {cs : List Char}
    (h : decodePieces pieces = some cs) : StandsFor pieces cs := by
  fun_induction decodePieces pieces generalizing cs with
  | case1 =>
    cases h
    exact .nil
  | case2 c rest ih =>
    obtain ⟨cs, hcs, rfl⟩ := Option.map_eq_some_iff.mp h
    exact .char c (ih (fun u hu => hunits u (List.mem_cons_of_mem _ hu)) hcs)
  | case3 u v rest hu hv ih =>
    obtain ⟨cs, hcs, rfl⟩ := Option.map_eq_some_iff.mp h
    have hpair := StandsFor.units (ofPair u v) (ih (fun w hw => hunits w (by simp [hw])) hcs)
    rwa [utf16_ofPair hu hv] at hpair
  | case6 u v rest hu hv ih =>
    obtain ⟨cs, hcs, rfl⟩ := Option.map_eq_some_iff.mp h
    exact .unit ⟨eq_false_of_ne_true hu, eq_false_of_ne_true hv⟩
      (hunits u List.mem_cons_self) (ih (fun w hw => hunits w (List.mem_cons_of_mem _ hw)) hcs)
  | case8 u rest _ hu ih =>
    obtain ⟨cs, hcs, rfl⟩ := Option.map_eq_some_iff.mp h
    exact .unit (by simpa using hu) (hunits u List.mem_cons_self)
      (ih (fun w hw => hunits w (List.mem_cons_of_mem _ hw)) hcs)
  | case4 | case5 | case7 => cases h

/-- A literal stands for a string exactly when it is read as that string. -/
theorem standsFor_iff {cs : List Char} {pieces : List Piece} (hspell : SpellsPieces cs pieces)
    {s : String} : StandsFor pieces s.toList ↔ text? pieces = some s := by
  rw [text?, Option.map_eq_some_iff]
  constructor
  · exact fun h => ⟨_, decodePieces_of_standsFor h, String.ofList_toList⟩
  · rintro ⟨cs, hcs, rfl⟩
    rw [String.toList_ofList]
    exact standsFor_of_decodePieces (fun u => unit_lt_of_spells hspell) hcs

/-! ## The literal of a string -/

/-- The piece that a written character is read back as: a UTF-16 unit for the controls that have no
letter. -/
def pieceOf (c : Char) : Piece :=
  if isRaw c || ['\x08', '\x0c', '\n', '\r', '\t'].contains c then .char c else .unit c.toNat

/-- The pieces of the literal of a string. -/
def piecesOf (s : String) : List Piece := s.toList.map pieceOf

theorem spellsPiece_control {n : Nat} (h : n < 0x20) :
    SpellsPiece ['\\', 'u', '0', '0', Hexadecimal.digitChar (n / 16),
      Hexadecimal.digitChar (n % 16)] (.unit n) := by
  have hzero : Hexadecimal.digit? '0' = some 0 := by decide
  have hdigits := SpellsPiece.digits hzero hzero
    (Hexadecimal.digit?_digitChar (n := n / 16) (by omega))
    (Hexadecimal.digit?_digitChar (n := n % 16) (by omega))
  have hn : ((0 * 16 + 0) * 16 + n / 16) * 16 + n % 16 = n := by omega
  rwa [hn] at hdigits

/-- Every character is written as its piece. -/
theorem spellsPiece_quoteChar (c : Char) : SpellsPiece (quoteChar c) (pieceOf c) := by
  by_cases hquote : c = '"'
  · subst hquote
    exact .letter (by decide)
  by_cases hbackslash : c = '\\'
  · subst hbackslash
    exact .letter (by decide)
  by_cases hletter : ['\x08', '\x0c', '\n', '\r', '\t'].contains c = true
  · simp only [List.contains_cons, List.contains_nil, Bool.or_false, Bool.or_eq_true,
      beq_iff_eq] at hletter
    obtain rfl | rfl | rfl | rfl | rfl := hletter <;> exact .letter (by decide)
  · have hnone : c ≠ '\x08' ∧ c ≠ '\x0c' ∧ c ≠ '\n' ∧ c ≠ '\r' ∧ c ≠ '\t' := by
      simpa using hletter
    cases hraw : isRaw c with
    | true =>
      simp only [quoteChar, pieceOf, hquote, hbackslash, hnone, hraw, Bool.true_or, if_true,
        if_false]
      exact .raw (by simpa [isRaw] using hraw) hquote hbackslash
    | false =>
      simp only [quoteChar, pieceOf, hquote, hbackslash, hnone, hraw, hletter, Bool.or_false,
        Bool.false_eq_true, if_false]
      exact spellsPiece_control (by simpa [isRaw] using hraw)

theorem spellsPieces_quote (s : String) :
    SpellsPieces (s.toList.flatMap quoteChar) (piecesOf s) := by
  unfold piecesOf
  induction s.toList with
  | nil => exact .nil
  | cons c cs ih => exact .cons (spellsPiece_quoteChar c) ih

theorem standsFor_piecesOf (s : String) : StandsFor (piecesOf s) s.toList := by
  unfold piecesOf
  induction s.toList with
  | nil => exact .nil
  | cons c cs ih =>
    rw [List.map_cons, pieceOf]
    split
    · exact .char c ih
    · rename_i hunit
      have hlow : c.toNat < 0x20 := by
        simp only [isRaw, Bool.or_eq_true, decide_eq_true_eq, not_or] at hunit
        omega
      have hunits := StandsFor.units c ih
      rwa [utf16, if_pos (by omega)] at hunits

/-- The pieces of a literal stand for its string. -/
theorem text?_piecesOf (s : String) : text? (piecesOf s) = some s :=
  (standsFor_iff (spellsPieces_quote s)).mp (standsFor_piecesOf s)

end WebForm.Json
