import WebForm.Json
import WebForm.Json.Token
import WebForm.Proofs.Json.Literal

/-!
# Written values as tokens

Compact text is scanned as the tokens that the writer meant, whatever follows it.

* `Yields` says that characters are scanned as certain tokens, in front of any text.

Results:
* `Yields.append`, `yields_mark`, `yields_literal`, `yields_member`: texts are put together from
  parts.
* `Yields.tokens_eq`: the tokens of a whole text.
-/

namespace WebForm.Json

/-! ## Tokens -/

/-- The characters are scanned as the tokens, in front of any text. -/
structure Yields (cs : List Char) (ts : List Token) : Prop where
  /-- Every token takes a character. -/
  length_le : ts.length ≤ cs.length
  scan_append (fuel : Nat) (rest : List Char) :
    Token.scan (ts.length + fuel) (cs ++ rest) = ts ++ Token.scan fuel rest

/-- No characters hold no tokens. -/
theorem yields_nil : Yields [] [] where
  length_le := Nat.le_refl _
  scan_append fuel rest := by rw [List.length_nil, Nat.zero_add]; rfl

namespace Yields

theorem append {cs cs' : List Char} {ts ts' : List Token} (h : Yields cs ts)
    (h' : Yields cs' ts') : Yields (cs ++ cs') (ts ++ ts') where
  length_le := by
    have := h.length_le
    have := h'.length_le
    simp only [List.length_append]
    omega
  scan_append fuel rest := by
    rw [List.length_append, Nat.add_assoc, List.append_assoc, h.scan_append, h'.scan_append,
      List.append_assoc]

/-- The tokens of a whole text. -/
theorem tokens_eq {cs : List Char} {ts : List Token} (h : Yields cs ts) :
    tokens (String.ofList cs) = ts := by
  have hend : ∀ fuel, Token.scan fuel [] = [] := fun fuel => by cases fuel <;> rfl
  have hscan := h.scan_append (cs.length - ts.length) []
  rw [Nat.add_sub_cancel' h.length_le, List.append_nil, hend, List.append_nil] at hscan
  rw [tokens, String.length_ofList, String.toList_ofList, hscan]

end Yields

/-- A token that is there whatever follows it. -/
theorem yields_of_first? {c : Char} {cs : List Char} {token : Token}
    (hspace : Token.isSpace c = false)
    (h : ∀ rest, Token.first? (c :: (cs ++ rest)) = some (token, rest)) :
    Yields (c :: cs) [token] where
  length_le := by simp
  scan_append fuel rest := by
    rw [List.length_singleton, Nat.add_comm, List.cons_append, Token.scan,
      List.dropWhile_cons_of_neg (by simp [hspace])]
    simp only [h, List.singleton_append]

/-- A literal between its quotes. -/
theorem yields_literal {cs : List Char} {pieces : List Piece} (h : SpellsPieces cs pieces) :
    Yields ('"' :: (cs ++ ['"'])) [.string pieces] := by
  refine yields_of_first? (by decide) fun rest => ?_
  rw [List.append_assoc, List.singleton_append, Token.first?, readPieces_of_spells h,
    Option.map_some]

/-- The literal of a string. -/
theorem yields_quote (s : String) : Yields (quote s) [.string (piecesOf s)] :=
  yields_literal (spellsPieces_quote s)

/-- The marks that the members of an object stand between. -/
def marks : List (Char × Token) :=
  [('\x7b', .openBrace), ('\x7d', .closeBrace), (':', .colon), (',', .comma)]

theorem yields_mark (c : Char) (token : Token) (h : (c, token) ∈ marks) : Yields [c] [token] := by
  simp only [marks, List.mem_cons, Prod.mk.injEq, List.not_mem_nil, or_false] at h
  obtain ⟨rfl, rfl⟩ | ⟨rfl, rfl⟩ | ⟨rfl, rfl⟩ | ⟨rfl, rfl⟩ := h <;>
    exact yields_of_first? (by decide) fun rest => rfl

/-! ## Members -/

/-- The text of a member: its key, a colon, and the text of its value. -/
theorem yields_member (key : String) {value : Json} {ts : List Token}
    (h : Yields (compactChars value) ts) :
    Yields (quote key ++ ':' :: compactChars value) (.string (piecesOf key) :: .colon :: ts) :=
  (yields_quote key).append ((yields_mark ':' .colon (by decide)).append h)

theorem commaJoin_singleton (part : List Char) : commaJoin [part] = part := by
  simp [commaJoin]

end WebForm.Json
