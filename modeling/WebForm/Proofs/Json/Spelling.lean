import WebForm.Proofs.Json.Members
import WebForm.Proofs.Json.Scan

/-!
# Objects of strings, however they are written

The same object can be written in many ways: with white space around every token, and with its
literals spelled in any of the ways that there are. Here the text is described token by token, and
its reader is shown to see the members, in their order and with their repetitions, and nothing else.

* `SpellsTokens`: the text holds the tokens, with white space before, between and behind them.
* `SpellsObject`: the text is an object whose members are strings.

Results:
* `tokens_of_spells`, `spells_of_scan`: a text is scanned as the tokens that it spells, and spells
  the tokens that it is scanned as.
* `spellsObject_iff`: an object of strings is known by its tokens.
* `members_strings`: the loop over members that are strings takes them in turn.
-/

namespace WebForm.Json

/-! ## Tokens and white space -/

/-- The ways to write a mark or a literal. -/
inductive SpellsToken : List Char → Token → Prop
  | mark {c : Char} {token : Token} (h : (c, token) ∈ marks) : SpellsToken [c] token
  | literal {cs : List Char} {pieces : List Piece} (h : SpellsPieces cs pieces) :
    SpellsToken ('"' :: (cs ++ ['"'])) (.string pieces)

/-- White space: spaces, ends of line and tabs. -/
def AllSpace (cs : List Char) : Prop := ∀ c ∈ cs, c ∈ [' ', '\n', '\t', '\r']

/-- The text holds the tokens, each with white space before it, and white space behind the last. -/
inductive SpellsTokens : List Char → List Token → Prop
  | nil {space : List Char} (hspace : AllSpace space) : SpellsTokens space []
  | cons {space cs rest : List Char} {token : Token} {ts : List Token} (hspace : AllSpace space)
    (h : SpellsToken cs token) (hrest : SpellsTokens rest ts) :
    SpellsTokens (space ++ (cs ++ rest)) (token :: ts)

theorem yields_of_spellsToken {cs : List Char} {token : Token} (h : SpellsToken cs token) :
    Yields cs [token] := by
  cases h with
  | mark h => exact yields_mark _ _ h
  | literal h => exact yields_literal h

theorem isSpace_iff (c : Char) : Token.isSpace c = true ↔ c ∈ [' ', '\n', '\t', '\r'] := by
  simp [Token.isSpace, or_assoc]

/-- White space is passed over, if any token may follow. -/
theorem scan_append_of_allSpace {space : List Char} (h : AllSpace space) (fuel : Nat)
    (cs : List Char) : Token.scan (fuel + 1) (space ++ cs) = Token.scan (fuel + 1) cs := by
  rw [Token.scan, Token.scan,
    List.dropWhile_append_of_pos fun c hc => (isSpace_iff c).mpr (h c hc)]

/-- White space holds no token. -/
theorem scan_of_allSpace {space : List Char} (h : AllSpace space) (fuel : Nat) :
    Token.scan fuel space = [] := by
  cases fuel with
  | zero => rfl
  | succ fuel => rw [← List.append_nil space, scan_append_of_allSpace h]; rfl

/-- A text is scanned as the tokens that it spells, none of them without a character. -/
theorem scan_of_spells {cs : List Char} {ts : List Token} (h : SpellsTokens cs ts) :
    ts.length ≤ cs.length ∧ ∀ fuel, ts.length ≤ fuel → Token.scan fuel cs = ts := by
  induction h with
  | nil hspace => exact ⟨Nat.zero_le _, fun fuel _ => scan_of_allSpace hspace fuel⟩
  | @cons space cs rest token ts hspace htoken _ ih =>
    obtain ⟨hlength, hscan⟩ := ih
    have hyields := yields_of_spellsToken htoken
    refine ⟨?_, fun fuel hfuel => ?_⟩
    · have := hyields.length_le
      simp only [List.length_append, List.length_cons, List.length_nil] at *
      omega
    · obtain ⟨fuel, rfl⟩ := Nat.exists_eq_succ_of_ne_zero (Nat.ne_zero_of_lt hfuel)
      have htail := hyields.scan_append fuel rest
      rw [List.length_singleton, Nat.add_comm] at htail
      rw [scan_append_of_allSpace hspace, htail, hscan fuel (Nat.le_of_succ_le_succ hfuel)]
      rfl

/-- **A text is scanned as the tokens that it spells.** -/
theorem tokens_of_spells {text : String} {ts : List Token} (h : SpellsTokens text.toList ts) :
    tokens text = ts := by
  obtain ⟨hlength, hscan⟩ := scan_of_spells h
  exact hscan _ (by rwa [String.length_toList] at hlength)

/-- The marks and the literals. -/
def IsPlain (token : Token) : Prop :=
  (∃ c, (c, token) ∈ marks) ∨ ∃ pieces, token = .string pieces

/-- A mark or a literal that is read at the front of a text is spelled there. -/
theorem exists_spells_of_first? {cs rest : List Char} {token : Token} (hplain : IsPlain token)
    (h : Token.first? cs = some (token, rest)) :
    ∃ front, cs = front ++ rest ∧ SpellsToken front token := by
  unfold Token.first? at h
  split at h
  case h_1 | h_2 | h_5 | h_6 =>
    cases h
    exact ⟨[_], rfl, .mark (by decide)⟩
  case h_10 cs =>
    obtain ⟨⟨pieces, rest'⟩, hread, hpair⟩ := Option.map_eq_some_iff.mp h
    cases hpair
    obtain ⟨literal, rfl, hspell⟩ := exists_spells_of_readPieces hread
    exact ⟨_, by simp, .literal hspell⟩
  case h_11 =>
    obtain ⟨⟨n, rest'⟩, -, hpair⟩ := Option.map_eq_some_iff.mp h
    cases hpair
    simp [IsPlain, marks] at hplain
  all_goals
    cases h
    simp [IsPlain, marks] at hplain

/-- A text that is scanned as marks and literals spells them. -/
theorem spells_of_scan : ∀ {fuel : Nat} {cs : List Char}, cs.length ≤ fuel →
    (∀ token ∈ Token.scan fuel cs, IsPlain token) → SpellsTokens cs (Token.scan fuel cs) := by
  intro fuel
  induction fuel with
  | zero =>
    intro cs hlength _
    rw [List.length_eq_zero_iff.mp (Nat.le_zero.mp hlength)]
    exact .nil fun _ hc => absurd hc List.not_mem_nil
  | succ fuel ih =>
    intro cs hlength hplain
    have hspace : AllSpace (cs.takeWhile Token.isSpace) := fun c hc =>
      (isSpace_iff c).mp (List.all_eq_true.mp List.all_takeWhile c hc)
    have hcs := List.takeWhile_append_dropWhile (p := Token.isSpace) (l := cs)
    rw [Token.scan] at hplain ⊢
    cases hdrop : cs.dropWhile Token.isSpace with
    | nil =>
      rw [hdrop, List.append_nil] at hcs
      exact .nil (hcs ▸ hspace)
    | cons c rest =>
      rw [hdrop] at hcs hplain
      cases hfirst : Token.first? (c :: rest) with
      | none =>
        simp [hfirst, IsPlain, marks] at hplain
      | some found =>
        obtain ⟨token, rest⟩ := found
        simp only [hfirst, List.forall_mem_cons] at hplain ⊢
        obtain ⟨front, hfront, htoken⟩ := exists_spells_of_first? hplain.1 hfirst
        have hlt : rest.length ≤ fuel := by
          have := (yields_of_spellsToken htoken).length_le
          rw [← hcs, hfront] at hlength
          simp only [List.length_append, List.length_singleton] at *
          omega
        rw [← hcs, hfront]
        exact .cons hspace htoken (ih hlt hplain.2)

/-- **The tokens of a text are marks and literals exactly when it spells them.** -/
theorem spellsTokens_iff {text : String} {ts : List Token} (hplain : ∀ token ∈ ts, IsPlain token) :
    SpellsTokens text.toList ts ↔ tokens text = ts := by
  constructor
  · exact tokens_of_spells
  · rintro rfl
    exact spells_of_scan (Nat.le_of_eq String.length_toList) hplain

/-! ## Objects of strings -/

/-- The literals of a member whose value is a string: its key and its value. -/
abbrev MemberLiterals := List Piece × List Piece

/-- The tokens of a member whose value is a string. -/
def stringMember (m : MemberLiterals) : TokenMember := (m.1, [.string m.2])

/-- The text is an object whose members are strings, with the literals in their order. -/
def SpellsObject (text : String) (literals : List MemberLiterals) : Prop :=
  SpellsTokens text.toList
    (.openBrace :: (bodyTokens (literals.map stringMember) ++ [.closeBrace]))

theorem isPlain_of_mem_bodyTokens {members : List MemberLiterals} {token : Token}
    (h : token ∈ bodyTokens (members.map stringMember)) : IsPlain token := by
  rcases of_mem_bodyTokens h with rfl | ⟨_, hm, htoken⟩
  · exact .inl ⟨',', by decide⟩
  · obtain ⟨m, -, rfl⟩ := List.mem_map.mp hm
    simp only [memberTokens, stringMember, List.mem_cons, List.not_mem_nil, or_false] at htoken
    rcases htoken with rfl | rfl | rfl
    · exact .inr ⟨_, rfl⟩
    · exact .inl ⟨':', by decide⟩
    · exact .inr ⟨_, rfl⟩

/-- **A text spells an object of strings exactly when its tokens are those of one.** -/
theorem spellsObject_iff {text : String} {members : List MemberLiterals} :
    SpellsObject text members ↔
      tokens text = .openBrace :: (bodyTokens (members.map stringMember) ++ [.closeBrace]) := by
  refine spellsTokens_iff fun token h => ?_
  rcases List.mem_cons.mp h with rfl | h
  · exact .inl ⟨'\x7b', by decide⟩
  rcases List.mem_append.mp h with h | h
  · exact isPlain_of_mem_bodyTokens h
  · rw [List.mem_singleton.mp h]
    exact .inl ⟨'\x7d', by decide⟩

instance (text : String) (members : List MemberLiterals) :
    Decidable (SpellsObject text members) := decidable_of_iff _ spellsObject_iff.symm

namespace Reader

variable {σ : Type} {step : σ → List Piece → Reader σ}
  {take : σ → MemberLiterals → Except Fault σ}

/-- When what a step makes of a string depends on its literals only, the members leave what these
make in turn. -/
theorem leaves_strings
    (hstep : ∀ s m rest, step s m.1 (.colon :: .string m.2 :: rest) = (take s m).map (·, rest)) :
    ∀ (literals : List MemberLiterals) (s : σ),
      Leaves step s (literals.map stringMember) (literals.foldlM take s)
  | [], s => .nil s
  | m :: literals, s => by
    rw [List.map_cons, List.foldlM_cons]
    have hfirst : ∀ rest, step s m.1 (.colon :: ([.string m.2] ++ rest)) =
        (take s m).map (·, rest) := hstep s m
    cases htake : take s m with
    | error e => exact .fault fun rest => by rw [stringMember, hfirst, htake]; rfl
    | ok s' =>
      exact .cons (fun rest => by rw [stringMember, hfirst, htake]; rfl)
        (leaves_strings hstep literals s')

/-- **The loop over members that are strings** takes them in turn. -/
theorem members_strings
    (hstep : ∀ s m rest, step s m.1 (.colon :: .string m.2 :: rest) = (take s m).map (·, rest))
    (literals : List MemberLiterals) (s : σ) (rest : List Token) :
    Reader.members step s (bodyTokens (literals.map stringMember) ++ .closeBrace :: rest) =
      (literals.foldlM take s).map (·, rest) :=
  members_eq (leaves_strings hstep literals s) rest

end Reader

end WebForm.Json
