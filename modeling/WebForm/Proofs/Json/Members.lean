import Mathlib.Data.List.Basic
import WebForm.Json.Document

/-!
# The loop over the members of an object

An object is read member by member: a step takes the state that was reached so far, the key of the
next member and the tokens behind the key, and either goes on from another state or ends in a fault.
Which state the members leave follows from the steps alone. The commas between them and the number
of rounds that the loop may take are dealt with here, once for all readers.

* `bodyTokens`: the tokens between the braces.
* `Leaves`: what the steps make of the members, one after the other, up to the first fault.

Results:
* `moreMembers_eq`, `members_eq`: the loop ends with what the steps leave.
-/

namespace WebForm.Json

/-- A member as it is read: the pieces of its key and the tokens of its value. -/
abbrev TokenMember := List Piece × List Token

/-- The tokens of a member. -/
def memberTokens (m : TokenMember) : List Token := .string m.1 :: .colon :: m.2

/-- The tokens between the braces of an object: its members, with a comma between each two. -/
def bodyTokens (members : List TokenMember) : List Token :=
  [Token.comma].intercalate (members.map memberTokens)

@[simp] theorem bodyTokens_singleton (m : TokenMember) : bodyTokens [m] = memberTokens m := by
  simp [bodyTokens]

theorem bodyTokens_cons_cons (m next : TokenMember) (members : List TokenMember) :
    bodyTokens (m :: next :: members) = memberTokens m ++ .comma :: bodyTokens (next :: members) := by
  simp [bodyTokens, List.intercalate_cons_cons]

/-- The first token of members is the key of the first. -/
theorem exists_bodyTokens_cons (m : TokenMember) : ∀ members : List TokenMember,
    ∃ ts, bodyTokens (m :: members) = .string m.1 :: ts
  | [] => ⟨_, bodyTokens_singleton m⟩
  | next :: members => ⟨_, bodyTokens_cons_cons m next members⟩

/-- Every member has a token for the round that it takes. -/
theorem length_le_bodyTokens : ∀ members : List TokenMember,
    members.length ≤ (bodyTokens members).length
  | [] => Nat.zero_le _
  | [m] => by simp [memberTokens]
  | m :: next :: members => by
    have := length_le_bodyTokens (next :: members)
    rw [bodyTokens_cons_cons]
    simp only [memberTokens, List.length_append, List.length_cons] at *
    omega

theorem mem_bodyTokens {m : TokenMember} {token : Token} (htoken : token ∈ memberTokens m) :
    ∀ {members : List TokenMember}, m ∈ members → token ∈ bodyTokens members
  | [m'], h => by
    rw [List.mem_singleton.mp h] at htoken
    rwa [bodyTokens_singleton]
  | m' :: next :: members, h => by
    rw [bodyTokens_cons_cons]
    rcases List.mem_cons.mp h with rfl | h
    · exact List.mem_append_left _ htoken
    · exact List.mem_append_right _ (List.mem_cons_of_mem _ (mem_bodyTokens htoken h))

theorem of_mem_bodyTokens {token : Token} : ∀ {members : List TokenMember},
    token ∈ bodyTokens members → token = .comma ∨ ∃ m ∈ members, token ∈ memberTokens m
  | [], h => absurd h List.not_mem_nil
  | [m], h => .inr ⟨m, List.mem_singleton_self m, by rwa [bodyTokens_singleton] at h⟩
  | m :: next :: members, h => by
    rw [bodyTokens_cons_cons, List.mem_append, List.mem_cons] at h
    rcases h with h | h | h
    · exact .inr ⟨m, List.mem_cons_self, h⟩
    · exact .inl h
    · exact (of_mem_bodyTokens h).imp_right fun ⟨m', hm', ht⟩ =>
        ⟨m', List.mem_cons_of_mem _ hm', ht⟩

namespace Reader

variable {σ : Type} {step : σ → List Piece → Reader σ}

/-- What the steps make of the members, one after the other: a state, or the first fault. Each step
reads its member whatever follows it. -/
inductive Leaves (step : σ → List Piece → Reader σ) :
    σ → List TokenMember → Except Fault σ → Prop
  | nil (s : σ) : Leaves step s [] (.ok s)
  | cons {s s' : σ} {m : TokenMember} {members : List TokenMember} {result : Except Fault σ}
    (hfirst : ∀ rest, step s m.1 (.colon :: (m.2 ++ rest)) = .ok (s', rest))
    (hrest : Leaves step s' members result) : Leaves step s (m :: members) result
  | fault {s : σ} {m : TokenMember} {members : List TokenMember} {e : Fault}
    (hfirst : ∀ rest, step s m.1 (.colon :: (m.2 ++ rest)) = .error e) :
    Leaves step s (m :: members) (.error e)

/-- The loop over one or more members. -/
theorem moreMembers_eq (rest : List Token) (members : List TokenMember) :
    ∀ {m : TokenMember} {s : σ} {result : Except Fault σ} {fuel : Nat},
      Leaves step s (m :: members) result → members.length < fuel →
      moreMembers step fuel s (bodyTokens (m :: members) ++ .closeBrace :: rest) =
        result.map (·, rest) := by
  -- The loop reads a member before it looks for a comma, so the induction is on those behind it.
  induction members with
  | nil =>
    intro m s result fuel h hfuel
    obtain ⟨fuel, rfl⟩ := Nat.exists_eq_succ_of_ne_zero (Nat.ne_zero_of_lt hfuel)
    simp only [bodyTokens_singleton, memberTokens, List.cons_append, moreMembers]
    cases h with
    | cons hfirst hrest =>
      cases hrest
      rw [hfirst]
      rfl
    | fault hfirst =>
      rw [hfirst]
      rfl
  | cons next members ih =>
    intro m s result fuel h hfuel
    obtain ⟨fuel, rfl⟩ := Nat.exists_eq_succ_of_ne_zero (Nat.ne_zero_of_lt hfuel)
    simp only [bodyTokens_cons_cons, memberTokens, List.cons_append, List.append_assoc,
      moreMembers]
    cases h with
    | cons hfirst hrest =>
      rw [hfirst]
      exact ih hrest (Nat.lt_of_succ_lt_succ hfuel)
    | fault hfirst =>
      rw [hfirst]
      rfl

/-- **The loop over the members of an object** ends with what the steps leave. -/
theorem members_eq {members : List TokenMember} {s : σ} {result : Except Fault σ}
    (h : Leaves step s members result) (rest : List Token) :
    Reader.members step s (bodyTokens members ++ .closeBrace :: rest) = result.map (·, rest) := by
  cases members with
  | nil =>
    cases h
    rfl
  | cons m members =>
    have hfuel : members.length < (bodyTokens (m :: members) ++ .closeBrace :: rest).length := by
      have := length_le_bodyTokens (m :: members)
      simp only [List.length_append, List.length_cons] at *
      omega
    have hmore := moreMembers_eq rest members h hfuel
    obtain ⟨ts, hts⟩ := exists_bodyTokens_cons m members
    rw [hts] at hmore ⊢
    exact hmore

end Reader

end WebForm.Json
