import Mathlib.Data.List.Forall2
import WebForm.Rule

/-!
# Rules written and read back

A rule is written as its name and, in brackets, its argument; it is read by looking for the first
`[` and the last `]`. Neither direction undoes the other for every input: a written rule may offer
its reader other brackets than its own, and a rule that is read forgets on which side of the
brackets its name stood. Both round trips are settled here, in the form of an iff, for one rule and
for whole expressions.

* `Group token before inside after`: the argument group of a token, without the function that looks
  for it.
* `Spells token rule`: the rule that a token stands for.

Results:
* `spells_iff`: reading a token gives the rule that it spells.
* `parse_render_eq_iff`, `render_parse_eq_iff`: the round trips of one rule and of one token.
* `parseAll_renderAll_eq_iff`: writing and then reading rules gives the rules back iff they are
  well-formed.
* `renderAll_parseAll_eq_iff`: reading and then writing an expression gives it back iff no token has
  text after its group; and what each token of any expression is read as.
-/

namespace WebForm.Rule

open Text

variable {token : String} {rule : Rule} {before inside after : List Char}

/-! ## What a token stands for -/

/-- The token is `before[inside]after`, cut at its first `[` and at its last `]`, and the two
enclose something. -/
structure Group (token before inside after : List Char) : Prop where
  token_eq : token = before ++ '[' :: (inside ++ ']' :: after)
  first : '[' ∉ before
  last : ']' ∉ after
  inside_ne_nil : inside ≠ []

/-- The first `[` and the last `]` of the token enclose something. -/
def HasGroup (token : List Char) : Prop := ∃ before inside after, Group token before inside after

/-- The rule that a token stands for: the text in the group is the argument and the text around it
the name; without a group everything is the name. -/
inductive Spells (token : String) : Rule → Prop
  | group {before inside after : List Char} (h : Group token.toList before inside after) :
    Spells token ⟨String.ofList (before ++ after), some (String.ofList inside)⟩
  | plain (h : ¬ HasGroup token.toList) : Spells token ⟨token, none⟩

theorem bracketed?_eq_some_iff_group {token : List Char} :
    bracketed? token = some (before, inside, after) ↔ Group token before inside after := by
  rw [bracketed?_eq_some_iff]
  exact ⟨fun ⟨h, hb, ha, hi⟩ => ⟨h, hb, ha, hi⟩, fun h => ⟨h.1, h.2, h.3, h.4⟩⟩

theorem bracketed?_eq_none_iff {token : List Char} : bracketed? token = none ↔ ¬ HasGroup token := by
  rw [Option.eq_none_iff_forall_ne_some]
  constructor
  · rintro h ⟨before, inside, after, hg⟩
    exact h _ (bracketed?_eq_some_iff_group.mpr hg)
  · rintro h ⟨before, inside, after⟩ hb
    exact h ⟨before, inside, after, bracketed?_eq_some_iff_group.mp hb⟩

instance (token : List Char) : Decidable (HasGroup token) :=
  decidable_of_iff (bracketed? token ≠ none) (by rw [Ne, bracketed?_eq_none_iff, not_not])

theorem parse_of_group (h : Group token.toList before inside after) :
    parse token = ⟨String.ofList (before ++ after), some (String.ofList inside)⟩ := by
  unfold parse
  rw [bracketed?_eq_some_iff_group.mpr h]

theorem parse_of_not_hasGroup (h : ¬ HasGroup token.toList) : parse token = ⟨token, none⟩ := by
  unfold parse
  rw [bracketed?_eq_none_iff.mpr h]

/-- **Reading a token gives the rule that it spells.** -/
theorem spells_iff : Spells token rule ↔ parse token = rule := by
  constructor
  · rintro (h | h)
    · exact parse_of_group h
    · exact parse_of_not_hasGroup h
  · rintro rfl
    by_cases h : HasGroup token.toList
    · obtain ⟨before, inside, after, hg⟩ := h
      rw [parse_of_group hg]
      exact .group hg
    · rw [parse_of_not_hasGroup h]
      exact .plain h

theorem spells_parse (token : String) : Spells token (parse token) := spells_iff.mpr rfl

/-! ## One rule -/

@[simp] theorem toList_render_some (name argument : String) :
    (render ⟨name, some argument⟩).toList =
      name.toList ++ '[' :: (argument.toList ++ [']']) := by
  simp [render]

@[simp] theorem render_none (name : String) : render ⟨name, none⟩ = name := rfl

/-- The text after the brackets cannot be moved before them: the whole would end otherwise. -/
theorem after_eq_nil (hafter : ']' ∉ after)
    (h : after ++ '[' :: (inside ++ [']']) = '[' :: (inside ++ ']' :: after)) : after = [] := by
  rcases List.eq_nil_or_concat after with rfl | ⟨start, c, rfl⟩
  · rfl
  · have hend := congrArg List.getLast? h
    simp only [List.concat_eq_append, List.getLast?_append, List.getLast?_cons] at hend
    have hc : c = ']' := by simpa using hend.symm
    exact absurd (by simp [hc]) hafter

/-- The text of the rule that a token with a group is read as. -/
theorem toList_render_parse (h : Group token.toList before inside after) :
    (parse token).render.toList = before ++ (after ++ '[' :: (inside ++ [']'])) := by
  rw [parse_of_group h, toList_render_some]
  simp

/-- **A token that is read writes back** iff nothing stands after its group. -/
theorem render_parse_eq_iff :
    (parse token).render = token ↔
      ¬ HasGroup token.toList ∨ ∃ before inside, Group token.toList before inside [] := by
  by_cases h : HasGroup token.toList
  · obtain ⟨before, inside, after, hg⟩ := h
    rw [← String.toList_inj, toList_render_parse hg]
    constructor
    · intro heq
      rw [hg.token_eq, List.append_cancel_left_eq] at heq
      obtain rfl := after_eq_nil hg.last heq
      exact Or.inr ⟨before, inside, hg⟩
    · rintro (hnot | ⟨before', inside', hg'⟩)
      · exact absurd ⟨before, inside, after, hg⟩ hnot
      · rw [← toList_render_parse hg, toList_render_parse hg', hg'.token_eq]
        rfl
  · rw [parse_of_not_hasGroup h, render_none]
    exact iff_of_true rfl (Or.inl h)

/-- A rule whose written form has no group but its own. -/
def IsReadable : Rule → Prop
  | ⟨name, some argument⟩ => argument ≠ "" ∧ '[' ∉ name.toList
  | ⟨name, none⟩ => ¬ HasGroup name.toList

instance : (rule : Rule) → Decidable rule.IsReadable
  | ⟨_, some _⟩ => inferInstanceAs (Decidable (_ ∧ _))
  | ⟨_, none⟩ => inferInstanceAs (Decidable (¬ _))

/-- **A rule that is written reads back** iff its written form has no group but its own. -/
theorem parse_render_eq_iff : parse rule.render = rule ↔ rule.IsReadable := by
  obtain ⟨name, _ | argument⟩ := rule
  · rw [render_none]
    refine ⟨fun h hg => ?_, parse_of_not_hasGroup⟩
    obtain ⟨before, inside, after, hg⟩ := hg
    rw [parse_of_group hg] at h
    exact absurd h (by simp)
  · constructor
    · intro h
      generalize htoken : render ⟨name, some argument⟩ = token at h
      cases spells_iff.mpr h with
      | @group before inside after hg =>
        -- What is read and written again here is the token itself, so nothing follows its group.
        have hback : (parse token).render = token := by rw [h, htoken]
        have htext := toList_render_parse hg
        rw [hback, hg.token_eq, List.append_cancel_left_eq] at htext
        obtain rfl := after_eq_nil hg.last htext.symm
        exact ⟨by simpa [← String.toList_inj] using hg.inside_ne_nil, by simpa using hg.first⟩
    · rintro ⟨hargument, hname⟩
      have hg : Group (render ⟨name, some argument⟩).toList name.toList argument.toList [] :=
        ⟨toList_render_some name argument, hname, List.not_mem_nil, by simpa using hargument⟩
      rw [parse_of_group hg]
      simp

/-- The argument may hold any brackets, the name before it no opening one. -/
example : IsReadable ⟨"in]", some "]a[b"⟩ ∧ ¬ IsReadable ⟨"in[", some "a"⟩ ∧
    IsReadable ⟨"]a[]", none⟩ ∧ ¬ IsReadable ⟨"[]]", none⟩ := by decide

/-! ## Expressions -/

theorem map_eq_self_iff {α : Type} {f : α → α} {l : List α} :
    l.map f = l ↔ ∀ a ∈ l, f a = a := by
  constructor
  · intro h
    exact List.map_eq_map_iff.mp (h.trans (List.map_id l).symm)
  · intro h
    exact (List.map_congr_left h).trans (List.map_id l)

/-- No bar in the name and none in the argument. -/
structure BarFree (rule : Rule) : Prop where
  name : '|' ∉ rule.name.toList
  argument : ∀ argument ∈ rule.argument, '|' ∉ argument.toList

theorem BarFree.render (h : rule.BarFree) : '|' ∉ rule.render.toList := by
  obtain ⟨name, _ | argument⟩ := rule
  · exact h.name
  · have hargument := h.argument argument rfl
    have hname := h.name
    simp_all

/-- A token without a bar spells a rule without one. -/
theorem Spells.barFree (h : Spells token rule) (hbar : '|' ∉ token.toList) : rule.BarFree := by
  cases h with
  | group hg =>
    rw [hg.token_eq] at hbar
    constructor <;> simp_all
  | plain => exact ⟨hbar, by simp⟩

theorem parseAll_ne_nil (expression : String) : parseAll expression ≠ [] := by
  simp [parseAll, splitString, split_ne_nil]

/-- No token of an expression holds a bar. -/
theorem bar_not_mem_of_mem_splitString {expression : String}
    (h : token ∈ splitString '|' expression) : '|' ∉ token.toList := by
  obtain ⟨piece, hpiece, rfl⟩ := List.mem_map.mp h
  rw [String.toList_ofList]
  exact not_mem_of_mem_split hpiece

/-- No rule of an expression holds a bar. -/
theorem barFree_of_mem_parseAll {expression : String} (h : rule ∈ parseAll expression) :
    rule.BarFree := by
  obtain ⟨token, htoken, rfl⟩ := List.mem_map.mp h
  exact (spells_parse token).barFree (bar_not_mem_of_mem_splitString htoken)

/-- The tokens of written rules are the rules written one by one. -/
theorem splitString_renderAll {rules : List Rule} (hne : rules ≠ [])
    (hbar : ∀ rule ∈ rules, rule.BarFree) :
    splitString '|' (renderAll rules) = rules.map render := by
  have hpieces : ∀ piece ∈ rules.map fun rule => rule.render.toList, '|' ∉ piece := by
    intro piece hpiece
    obtain ⟨rule, hrule, rfl⟩ := List.mem_map.mp hpiece
    exact (hbar rule hrule).render
  rw [splitString, renderAll, String.toList_ofList, split_join (by simpa using hne) hpieces,
    List.map_map]
  exact List.map_congr_left fun rule _ => String.ofList_toList

/-- Rules without bars read back iff each of them does. -/
theorem parseAll_renderAll_eq_iff_forall {rules : List Rule} (hne : rules ≠ [])
    (hbar : ∀ rule ∈ rules, rule.BarFree) :
    parseAll (renderAll rules) = rules ↔ ∀ rule ∈ rules, parse rule.render = rule := by
  rw [parseAll, splitString_renderAll hne hbar, List.map_map, map_eq_self_iff]
  rfl

/-- **Writing and then reading rules gives the rules back** iff there are some, no name and no
argument holds a bar, and each rule is readable: an argument is not empty and its name holds no
`[`, and a name without an argument has no group. -/
theorem parseAll_renderAll_eq_iff (rules : List Rule) :
    parseAll (renderAll rules) = rules ↔
      rules ≠ [] ∧ (∀ rule ∈ rules, rule.BarFree) ∧ ∀ rule ∈ rules, rule.IsReadable := by
  constructor
  · intro h
    -- The rules have been read from an expression, so there are some and they hold no bar.
    have hne : rules ≠ [] := h ▸ parseAll_ne_nil _
    have hbar : ∀ rule ∈ rules, rule.BarFree := by
      rw [← h]
      exact fun rule => barFree_of_mem_parseAll
    have hread := (parseAll_renderAll_eq_iff_forall hne hbar).mp h
    exact ⟨hne, hbar, fun rule hrule => parse_render_eq_iff.mp (hread rule hrule)⟩
  · rintro ⟨hne, hbar, hreadable⟩
    refine (parseAll_renderAll_eq_iff_forall hne hbar).mpr fun rule hrule => ?_
    exact parse_render_eq_iff.mpr (hreadable rule hrule)

/-- An expression writes back iff each of its tokens does. -/
theorem renderAll_parseAll_eq_iff_forall {expression : String} :
    renderAll (parseAll expression) = expression ↔
      ∀ token ∈ splitString '|' expression, (parse token).render = token := by
  rw [← splitString_inj, splitString_renderAll (parseAll_ne_nil expression)
    fun rule => barFree_of_mem_parseAll, parseAll, List.map_map, map_eq_self_iff]
  rfl

/-- **Reading and then writing an expression gives it back** iff each of its tokens has no group or
ends with its group. Whatever the expression, there is one rule more than there are bars, and the
rules are, one by one, those that the tokens spell. -/
theorem renderAll_parseAll_eq_iff (expression : String) :
    (renderAll (parseAll expression) = expression ↔
      ∀ token ∈ splitString '|' expression,
        ¬ HasGroup token.toList ∨ ∃ before inside, Group token.toList before inside []) ∧
    (parseAll expression).length = expression.toList.count '|' + 1 ∧
    List.Forall₂ Spells (splitString '|' expression) (parseAll expression) := by
  refine ⟨?_, ?_, ?_⟩
  · rw [renderAll_parseAll_eq_iff_forall]
    exact forall₂_congr fun token _ => render_parse_eq_iff
  · rw [parseAll, splitString, List.length_map, List.length_map, length_split]
  · rw [parseAll, List.forall₂_map_right_iff, List.forall₂_same]
    exact fun token _ => spells_parse token

/-- Text after the group moves to the name. -/
example : renderAll (parseAll "in[a]b]|min[3]Length|x[]") = "in[a]b]|minLength[3]|x[]" := by decide

end WebForm.Rule
