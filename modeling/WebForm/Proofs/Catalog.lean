import Mathlib.Data.List.Infix
import WebForm.Catalog

/-!
# What a filled-in template says

The text put in for `{field}` is read again when the argument is put in. A label that holds
`{params}`, or makes one together with the template around it, is therefore not copied as it stands.

* `Text.occurrences`: at how many places a phrase stands in a text.
* `Catalog.pieces`: a template read as characters and placeholders, of both kinds at once.
* `Catalog.substitute`: what the pieces spell with a label and an argument in place of the
  placeholders; nothing that is put in is read.

Results:
* `Text.length_replaceCons`: what replacing a phrase does to the length of a text.
* `Catalog.replaceCons_fieldTail`: the first pass puts the label in and leaves `{params}` in place.
* `Catalog.replaceCons_spellAll_iff`: the second pass is right for every argument if and only if the
  first brought no `{params}` about.
* `Catalog.render?_verbatim_iff`: which labels a message copies as they stand, with every argument.
* `Catalog.render?_builtin`: with the templates of the built-in rules, a label without an opening
  brace is one of them.
-/

namespace WebForm

namespace Text

variable {p : Char} {ps new cs phrase : List Char}

theorem replaceCons_phrase_append (rest : List Char) :
    replaceCons p ps new (p :: ps ++ rest) = new ++ replaceCons p ps new rest := by
  rw [List.cons_append, replaceCons, if_pos rfl]
  split
  next r h =>
    obtain rfl := List.append_cancel_left (stripStart_eq_some_iff.mp h)
    rfl
  next h =>
    rw [stripStart_eq_some_iff.mpr rfl] at h
    cases h

theorem replaceCons_of_not_starts {c : Char} (h : ¬ p :: ps <+: c :: cs) :
    replaceCons p ps new (c :: cs) = c :: replaceCons p ps new cs := by
  rw [replaceCons]
  split
  next hpc =>
    split
    next rest hrest =>
      rw [stripStart_eq_some_iff.mp hrest, hpc] at h
      exact absurd (List.prefix_append _ _) h
    · rfl
  · rfl

/-- The number of places at which a phrase stands in a text. -/
def occurrences (phrase : List Char) : List Char → Nat
  | [] => 0
  | c :: cs => (if phrase <+: c :: cs then 1 else 0) + occurrences phrase cs

theorem occurrences_cons_of_not_starts {c : Char} (h : ¬ phrase <+: c :: cs) :
    occurrences phrase (c :: cs) = occurrences phrase cs := by
  rw [occurrences, if_neg h, Nat.zero_add]

theorem occurrences_le_append (phrase before cs : List Char) :
    occurrences phrase cs ≤ occurrences phrase (before ++ cs) := by
  induction before with
  | nil => exact Nat.le_refl _
  | cons c before ih => exact ih.trans (Nat.le_add_left _ _)

theorem occurrences_append_of_not_mem {before : List Char} (h : p ∉ before) :
    occurrences (p :: ps) (before ++ cs) = occurrences (p :: ps) cs := by
  induction before with
  | nil => rfl
  | cons c before ih =>
    simp only [List.mem_cons, not_or] at h
    rw [List.cons_append, occurrences_cons_of_not_starts, ih h.2]
    exact fun hprefix => h.1 (List.cons_prefix_cons.mp hprefix).1

/-- A phrase that does not hold its first character again does not overlap itself. -/
theorem occurrences_phrase_append (h : p ∉ ps) (cs : List Char) :
    occurrences (p :: ps) (p :: ps ++ cs) = occurrences (p :: ps) cs + 1 := by
  have hprefix : p :: ps <+: p :: (ps ++ cs) := List.prefix_append (p :: ps) cs
  rw [List.cons_append, occurrences, if_pos hprefix, occurrences_append_of_not_mem h, Nat.add_comm]

/-- A stretch in which the phrase starts nowhere is left alone. -/
theorem replaceCons_append_of_occurrences {before : List Char}
    (h : occurrences (p :: ps) (before ++ cs) = occurrences (p :: ps) cs) :
    replaceCons p ps new (before ++ cs) = before ++ replaceCons p ps new cs := by
  induction before with
  | nil => rfl
  | cons c before ih =>
    have hle := occurrences_le_append (p :: ps) before cs
    rw [List.cons_append, occurrences] at h
    have hnot : ¬ p :: ps <+: c :: (before ++ cs) := by
      intro hprefix
      rw [if_pos hprefix] at h
      omega
    rw [if_neg hnot, Nat.zero_add] at h
    rw [List.cons_append, replaceCons_of_not_starts hnot, ih h, List.cons_append]

/-- Each occurrence gives the length of the new text for its own. -/
theorem length_replaceCons (h : p ∉ ps) (new cs : List Char) :
    (replaceCons p ps new cs).length + occurrences (p :: ps) cs * (p :: ps).length =
      cs.length + occurrences (p :: ps) cs * new.length := by
  fun_induction replaceCons p ps new cs with
  | case1 => simp [occurrences]
  | case2 cs rest hrest _ ih =>
    rw [stripStart_eq_some_iff.mp hrest, ← List.cons_append, occurrences_phrase_append h,
      List.length_append, List.length_append, Nat.add_mul, Nat.add_mul]
    omega
  | case3 cs hnone ih =>
    have hnot : ¬ p :: ps <+: p :: cs := by
      rintro hprefix
      obtain ⟨rest, hrest⟩ := (List.cons_prefix_cons.mp hprefix).2
      rw [stripStart_eq_some_iff.mpr hrest.symm] at hnone
      cases hnone
    rw [occurrences_cons_of_not_starts hnot]
    change (replaceCons p ps new cs).length + 1 + _ = cs.length + 1 + _
    omega
  | case4 c cs hne ih =>
    have hnot : ¬ p :: ps <+: c :: cs := fun hprefix => hne (List.cons_prefix_cons.mp hprefix).1
    rw [occurrences_cons_of_not_starts hnot]
    change (replaceCons p ps new cs).length + 1 + _ = cs.length + 1 + _
    omega

end Text

namespace Catalog

open Text (occurrences replaceCons)

/-- `{field}` after its brace. -/
def fieldTail : List Char := ['f', 'i', 'e', 'l', 'd', '\x7d']

/-- `{params}` after its brace. -/
def paramsTail : List Char := ['p', 'a', 'r', 'a', 'm', 's', '\x7d']

theorem toList_fieldMark : fieldMark.toList = '\x7b' :: fieldTail := by decide

theorem toList_paramsMark : paramsMark.toList = '\x7b' :: paramsTail := by decide

theorem brace_not_mem_paramsTail : '\x7b' ∉ paramsTail := by decide

/-- What a template is made of. -/
inductive Piece
  | char (c : Char)
  | field
  | params
  deriving DecidableEq

/-- The pieces of a template. -/
def pieces : List Char → List Piece
  | [] => []
  | '\x7b' :: 'f' :: 'i' :: 'e' :: 'l' :: 'd' :: '\x7d' :: cs => .field :: pieces cs
  | '\x7b' :: 'p' :: 'a' :: 'r' :: 'a' :: 'm' :: 's' :: '\x7d' :: cs => .params :: pieces cs
  | c :: cs => .char c :: pieces cs

/-- A template is read in one of three ways where it does not end. -/
theorem pieces_induction {motive : List Char → List Piece → Prop} (nil : motive [] [])
    (field : ∀ cs, motive cs (pieces cs) →
      motive ('\x7b' :: fieldTail ++ cs) (.field :: pieces cs))
    (params : ∀ cs, motive cs (pieces cs) →
      motive ('\x7b' :: paramsTail ++ cs) (.params :: pieces cs))
    (char : ∀ c cs, ¬ '\x7b' :: fieldTail <+: c :: cs → ¬ '\x7b' :: paramsTail <+: c :: cs →
      motive cs (pieces cs) → motive (c :: cs) (.char c :: pieces cs)) (template : List Char) :
    motive template (pieces template) := by
  fun_induction pieces template with
  | case1 => exact nil
  | case2 cs ih => exact field cs ih
  | case3 cs ih => exact params cs ih
  | case4 c cs hfield hparams ih =>
    refine char c cs ?_ ?_ ih
    · rintro ⟨rest, hrest⟩
      cases hrest
      exact hfield rest rfl rfl
    · rintro ⟨rest, hrest⟩
      cases hrest
      exact hparams rest rfl rfl

/-- What a piece spells. -/
def Piece.spell (field params : List Char) : Piece → List Char
  | .char c => [c]
  | .field => field
  | .params => params

/-- What pieces spell. -/
def spellAll (field params : List Char) (ps : List Piece) : List Char :=
  ps.flatMap (Piece.spell field params)

/-- A template with a label and an argument in place of its placeholders. -/
def substitute (template field params : String) : String :=
  String.ofList (spellAll field.toList params.toList (pieces template.toList))

variable {field params : List Char} {ps : List Piece}

@[simp] theorem spellAll_nil : spellAll field params [] = [] := rfl

@[simp] theorem spellAll_cons (piece : Piece) :
    spellAll field params (piece :: ps) = piece.spell field params ++ spellAll field params ps :=
  List.flatMap_cons

/-- The first pass puts the label in and leaves the places of the argument. -/
theorem replaceCons_fieldTail (field template : List Char) :
    replaceCons '\x7b' fieldTail field template =
      spellAll field ('\x7b' :: paramsTail) (pieces template) := by
  induction template using pieces_induction with
  | nil => rw [replaceCons, spellAll_nil]
  | field cs ih => rw [Text.replaceCons_phrase_append, ih, spellAll_cons, Piece.spell]
  | params cs ih =>
    have hnone : occurrences ('\x7b' :: fieldTail) ('\x7b' :: paramsTail ++ cs) =
        occurrences ('\x7b' :: fieldTail) cs := by
      rw [List.cons_append, Text.occurrences_cons_of_not_starts (by simp [fieldTail, paramsTail]),
        Text.occurrences_append_of_not_mem (by decide)]
    rw [Text.replaceCons_append_of_occurrences hnone, ih, spellAll_cons, Piece.spell]
  | char c cs hfield _ ih =>
    rw [Text.replaceCons_of_not_starts hfield, ih, spellAll_cons, Piece.spell,
      List.singleton_append]

/-- `{params}` stands in a template where it is read. -/
theorem occurrences_eq_count (template : List Char) :
    occurrences ('\x7b' :: paramsTail) template = (pieces template).count .params := by
  induction template using pieces_induction with
  | nil => rfl
  | field cs ih =>
    rw [List.cons_append, Text.occurrences_cons_of_not_starts (by simp [fieldTail, paramsTail]),
      Text.occurrences_append_of_not_mem (by decide), ih, List.count_cons_of_ne (by decide)]
  | params cs ih =>
    rw [Text.occurrences_phrase_append brace_not_mem_paramsTail, ih, List.count_cons_self]
  | char c cs _ hparams ih =>
    rw [Text.occurrences_cons_of_not_starts hparams, ih, List.count_cons_of_ne (by simp)]

theorem Piece.spell_eq_of_ne {piece : Piece} (h : piece ≠ .params) (a b : List Char) :
    piece.spell field a = piece.spell field b := by
  cases piece with
  | char c => rfl
  | field => rfl
  | params => exact absurd rfl h

theorem length_spellAll (field params : List Char) (ps : List Piece) :
    (spellAll field params ps).length =
      (spellAll field [] ps).length + ps.count .params * params.length := by
  induction ps with
  | nil => simp
  | cons piece ps ih =>
    rw [spellAll_cons, spellAll_cons, List.length_append, List.length_append, ih]
    by_cases h : piece = .params
    · subst h
      rw [List.count_cons_self, Piece.spell, Piece.spell, List.length_nil, Nat.add_mul]
      omega
    · rw [List.count_cons_of_ne h, Piece.spell_eq_of_ne h params [], Nat.add_assoc]

/-- `{params}` stands wherever it was left; the label can only add to it. -/
theorem count_le_occurrences (field : List Char) (ps : List Piece) :
    ps.count .params ≤
      occurrences ('\x7b' :: paramsTail) (spellAll field ('\x7b' :: paramsTail) ps) := by
  induction ps with
  | nil => exact Nat.zero_le _
  | cons piece ps ih =>
    rw [spellAll_cons]
    by_cases h : piece = .params
    · subst h
      rw [List.count_cons_self, Piece.spell,
        Text.occurrences_phrase_append brace_not_mem_paramsTail]
      exact Nat.succ_le_succ ih
    · rw [List.count_cons_of_ne h]
      exact ih.trans (Text.occurrences_le_append _ _ _)

/-- Where `{params}` stands nowhere else, the second pass puts the argument in its place. -/
theorem replaceCons_spellAll {field : List Char} {ps : List Piece} (params : List Char)
    (h : occurrences ('\x7b' :: paramsTail) (spellAll field ('\x7b' :: paramsTail) ps) =
      ps.count .params) :
    replaceCons '\x7b' paramsTail params (spellAll field ('\x7b' :: paramsTail) ps) =
      spellAll field params ps := by
  induction ps with
  | nil => rw [spellAll_nil, spellAll_nil, replaceCons]
  | cons piece ps ih =>
    rw [spellAll_cons] at h
    rw [spellAll_cons, spellAll_cons]
    by_cases hpiece : piece = .params
    · subst hpiece
      rw [Piece.spell, Text.occurrences_phrase_append brace_not_mem_paramsTail,
        List.count_cons_self, Nat.add_right_cancel_iff] at h
      rw [Piece.spell, Piece.spell, Text.replaceCons_phrase_append, ih h]
    · -- The count bounds the occurrences in the rest from below, so the piece starts none.
      rw [List.count_cons_of_ne hpiece] at h
      have hle := count_le_occurrences field ps
      have hge := Text.occurrences_le_append ('\x7b' :: paramsTail)
        (piece.spell field ('\x7b' :: paramsTail)) (spellAll field ('\x7b' :: paramsTail) ps)
      have hrest : occurrences ('\x7b' :: paramsTail)
          (spellAll field ('\x7b' :: paramsTail) ps) = ps.count .params := by omega
      rw [Text.replaceCons_append_of_occurrences (h.trans hrest.symm), ih hrest,
        Piece.spell_eq_of_ne hpiece params]

/-- The absent argument already tells whether the second pass is right. -/
theorem replaceCons_spellAll_iff (field : List Char) (ps : List Piece) :
    (∀ params, replaceCons '\x7b' paramsTail params (spellAll field ('\x7b' :: paramsTail) ps) =
      spellAll field params ps) ↔
    occurrences ('\x7b' :: paramsTail) (spellAll field ('\x7b' :: paramsTail) ps) =
      ps.count .params := by
  constructor
  · intro h
    have hlength := Text.length_replaceCons brace_not_mem_paramsTail []
      (spellAll field ('\x7b' :: paramsTail) ps)
    rw [h [], length_spellAll field ('\x7b' :: paramsTail), List.length_nil, Nat.mul_zero,
      Nat.add_zero] at hlength
    exact Nat.eq_of_mul_eq_mul_right (by decide) (Nat.add_left_cancel hlength)
  · exact fun h params => replaceCons_spellAll params h

/-- Neither a label nor a text without an opening brace brings `{params}` about. -/
theorem occurrences_spellAll_of_not_mem {field : List Char} {ps : List Piece}
    (hfield : '\x7b' ∉ field) (hps : Piece.char '\x7b' ∉ ps) :
    occurrences ('\x7b' :: paramsTail) (spellAll field ('\x7b' :: paramsTail) ps) =
      ps.count .params := by
  induction ps with
  | nil => rfl
  | cons piece ps ih =>
    simp only [List.mem_cons, not_or] at hps
    rw [spellAll_cons]
    cases piece with
    | char c =>
      rw [Piece.spell, Text.occurrences_append_of_not_mem (by simpa using hps.1), ih hps.2,
        List.count_cons_of_ne (by simp)]
    | field =>
      rw [Piece.spell, Text.occurrences_append_of_not_mem hfield, ih hps.2,
        List.count_cons_of_ne (by simp)]
    | params =>
      rw [Piece.spell, Text.occurrences_phrase_append brace_not_mem_paramsTail, ih hps.2,
        List.count_cons_self]

/-- Filling a template in, with the first pass made. -/
theorem fill_eq (template field : String) (params : Option String) :
    fill template field params = String.ofList (replaceCons '\x7b' paramsTail
      (params.getD "").toList
        (spellAll field.toList ('\x7b' :: paramsTail) (pieces template.toList))) := by
  simp only [fill, Text.replaceString, Text.replace, toList_fieldMark, toList_paramsMark,
    String.toList_ofList, replaceCons_fieldTail]

theorem fill_eq_substitute_iff (template field : String) :
    (∀ params, fill template field params = substitute template field (params.getD "")) ↔
      occurrences paramsMark.toList (substitute template field paramsMark).toList =
        occurrences paramsMark.toList template.toList := by
  rw [substitute, String.toList_ofList, toList_paramsMark,
    occurrences_eq_count template.toList, ← replaceCons_spellAll_iff]
  simp only [fill_eq, substitute, String.ofList_inj]
  constructor
  · intro h params
    simpa using h (some (String.ofList params))
  · exact fun h params => h _

/-- A message has its label and every argument copied as they stand if and only if `{params}` stands
in the template with the label as often as in the template. -/
theorem render?_verbatim_iff {catalog : Catalog} {rule template : String}
    (h : catalog.template? rule = some template) (field : String) :
    (∀ params, catalog.render? rule field params =
      some (substitute template field (params.getD ""))) ↔
    occurrences paramsMark.toList (substitute template field paramsMark).toList =
      occurrences paramsMark.toList template.toList := by
  rw [← fill_eq_substitute_iff]
  simp only [render?, h, Option.map_some, Option.some_inj]

theorem render?_verbatim_iff_minLength : builtin.template? "minLength" =
      some "The \x7bfield\x7d field must be at least \x7bparams\x7d characters long." ∧
    builtin.render? "minLength" "\x7bfield\x7d \x7bparam" (some "\x7bparams\x7d") =
      some ("The \x7bfield\x7d \x7bparam field must be at least " ++
        "\x7bparams\x7d characters long.") :=
  have h : builtin.template? "minLength" =
      some "The \x7bfield\x7d field must be at least \x7bparams\x7d characters long." := by
    decide +kernel
  ⟨h, ((render?_verbatim_iff h "\x7bfield\x7d \x7bparam").mpr (by decide +kernel) _).trans
    (by decide +kernel)⟩

/-- A label that names the placeholder of the argument is filled in itself. -/
theorem not_render?_verbatim : ¬ ∀ (catalog : Catalog) (rule template field : String)
    (params : Option String), catalog.template? rule = some template →
      catalog.render? rule field params = some (substitute template field (params.getD "")) := by
  intro h
  exact absurd (h builtin "minLength" _ "Size \x7bparams\x7d" (some "5") rfl) (by decide +kernel)

/-- A label without an opening brace is copied as it stands, and so is the argument, where no other
brace opens in the template. -/
theorem fill_eq_substitute_of_not_mem {template field : String} (hfield : '\x7b' ∉ field.toList)
    (htemplate : Piece.char '\x7b' ∉ pieces template.toList) (params : Option String) :
    fill template field params = substitute template field (params.getD "") := by
  rw [fill_eq, substitute,
    replaceCons_spellAll _ (occurrences_spellAll_of_not_mem hfield htemplate)]

/-- The templates of the built-in rules open no brace but those of their placeholders. -/
theorem char_not_mem_pieces_builtin {rule template : String}
    (h : builtin.template? rule = some template) : Piece.char '\x7b' ∉ pieces template.toList := by
  have hmem : (rule, template) ∈ builtin.entries :=
    builtin.mem_entries_iff.mpr (Option.filter_eq_some_iff.mp h).1
  have hall : ∀ e ∈ builtin.entries, Piece.char '\x7b' ∉ pieces e.2.toList := by decide +kernel
  exact hall _ hmem

/-- With the templates of the built-in rules, a label without an opening brace is copied as it
stands, and so is every argument. -/
theorem render?_builtin {field : String} (hfield : '\x7b' ∉ field.toList) (rule : String)
    (params : Option String) : builtin.render? rule field params =
      (builtin.template? rule).map fun template => substitute template field (params.getD "") := by
  rw [render?]
  cases h : builtin.template? rule with
  | none => rfl
  | some template =>
    rw [Option.map_some, Option.map_some,
      fill_eq_substitute_of_not_mem hfield (char_not_mem_pieces_builtin h)]

end Catalog

end WebForm
