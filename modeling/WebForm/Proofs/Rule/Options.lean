import WebForm.Proofs.Registry
import WebForm.Proofs.Rule.RoundTrip

/-!
# Options in an expression

The options of a list stand in an expression between three kinds of marks: bars around the rule,
brackets around the list, and commas between the options. Written in this order they are read back,
whatever brackets the options hold themselves: the rule ends at the last bracket of its token.

Results:
* `splitString_intercalate`: the pieces of texts written with separators between them are the pieces
  of each of the texts.
* `Rule.parseAll_intercalate`: the rules of expressions written with bars between them are the rules
  of each.
* `Builtin.options_intercalate`: options without commas read back.
* `Builtin.inList_intercalate`: the rule of a written list is read back and accepts the blank values
  and the options, and nothing else.
-/

namespace WebForm

namespace Text

variable {sep : Char}

/-- **The pieces of texts with separators between them** are the pieces of each of the texts. -/
theorem splitString_intercalate (sep : Char) : ∀ {texts : List String}, texts ≠ [] →
    splitString sep ((String.singleton sep).intercalate texts) = texts.flatMap (splitString sep)
  | [s], _ => by simp
  | s :: t :: texts, _ => by
    have ih : splitString sep ((String.singleton sep).intercalate (t :: texts)) =
        (t :: texts).flatMap (splitString sep) := splitString_intercalate sep (by simp)
    rw [List.flatMap_cons, ← ih, String.intercalate_cons_cons]
    simp only [splitString, String.toList_append, String.toList_singleton, List.append_assoc,
      List.singleton_append, split_append_sep, List.map_append]

/-- Texts without the separator are the pieces. -/
theorem splitString_intercalate_of_not_mem {texts : List String} (hne : texts ≠ [])
    (h : ∀ s ∈ texts, sep ∉ s.toList) :
    splitString sep ((String.singleton sep).intercalate texts) = texts := by
  rw [splitString_intercalate sep hne, List.flatMap_congr fun s hs => splitString_of_not_mem (h s hs)]
  simp

theorem not_mem_toList_intercalate {c : Char} (hc : c ≠ sep) : ∀ {texts : List String},
    (∀ s ∈ texts, c ∉ s.toList) → c ∉ ((String.singleton sep).intercalate texts).toList
  | [], _ => by simp
  | [s], h => by simpa using h s (by simp)
  | s :: t :: texts, h => by
    have ih : c ∉ ((String.singleton sep).intercalate (t :: texts)).toList :=
      not_mem_toList_intercalate hc fun u hu => h u (by simp [hu])
    have hs := h s (by simp)
    rw [String.intercalate_cons_cons]
    simp only [String.toList_append, String.toList_singleton, List.mem_append, List.mem_singleton,
      not_or]
    exact ⟨⟨hs, hc⟩, ih⟩

end Text

namespace Rule

/-- **The rules of expressions with bars between them** are the rules of each. -/
theorem parseAll_intercalate {expressions : List String} (hne : expressions ≠ []) :
    parseAll ("|".intercalate expressions) = expressions.flatMap parseAll := by
  have hsplit := Text.splitString_intercalate '|' hne
  rw [parseAll, show "|" = String.singleton '|' from rfl, hsplit, List.map_flatMap]
  rfl

/-- A rule without bars that is readable is the one rule of its expression. -/
theorem parseAll_render {rule : Rule} (hbar : rule.BarFree) (hread : rule.IsReadable) :
    parseAll rule.render = [rule] := by
  rw [parseAll, Text.splitString_of_not_mem hbar.render, List.map_singleton,
    parse_render_eq_iff.mpr hread]

end Rule

namespace Builtin

variable {offered : List String}

/-- **Options without commas read back** when there are some. -/
theorem options_intercalate (hne : offered ≠ []) (h : ∀ option ∈ offered, ',' ∉ option.toList) :
    options (",".intercalate offered) = offered :=
  Text.splitString_intercalate_of_not_mem hne h

/-- Only the one empty option is written as nothing. -/
theorem intercalate_ne_empty (hne : offered ≠ []) (h : ∀ option ∈ offered, ',' ∉ option.toList)
    (hblank : offered ≠ [""]) : ",".intercalate offered ≠ "" := by
  intro hempty
  have hread := options_intercalate hne h
  rw [hempty] at hread
  exact hblank hread.symm

/-- The written list accepts the blank values and its options. -/
theorem accepts_inList {value : String} (hne : offered ≠ [])
    (h : ∀ option ∈ offered, ',' ∉ option.toList) :
    inList.accepts value (some (",".intercalate offered)) =
      decide (Text.isBlank value = true ∨ value ∈ offered) := by
  by_cases hblank : Text.isBlank value = true
  · simp [accepts, checkOptions, hblank]
  · simp [accepts, checkOptions, options_intercalate hne h, hblank]

/-- **A list offers exactly its options.** Let options be given that hold neither commas nor bars,
and not the one empty option. Written as a rule between any other rules of an expression,
the list is read back as the argument of that rule, every other part of the expression as without
it;
and with the built-in rules it accepts a value iff the value is blank or one of the options. -/
theorem inList_intercalate (hne : offered ≠ []) (hblank : offered ≠ [""])
    (hfree : ∀ option ∈ offered, ',' ∉ option.toList ∧ '|' ∉ option.toList) :
    (∀ before after : List String,
      Rule.parseAll ("|".intercalate
          (before ++ ("inList[" ++ ",".intercalate offered ++ "]") :: after)) =
        before.flatMap Rule.parseAll ++
          ⟨"inList", some (",".intercalate offered)⟩ :: after.flatMap Rule.parseAll) ∧
    ∀ (messages : Catalog) (value : String),
      (Registry.builtin messages).execute "inList" value (some (",".intercalate offered)) =
        .ok (decide (Text.isBlank value = true ∨ value ∈ offered)) := by
  have hcomma : ∀ option ∈ offered, ',' ∉ option.toList := fun option ho => (hfree option ho).1
  constructor
  · intro before after
    have hbar : Rule.BarFree ⟨"inList", some (",".intercalate offered)⟩ := by
      refine ⟨show '|' ∉ "inList".toList by decide, fun argument hargument => ?_⟩
      obtain rfl := Option.some.inj hargument
      have hne : '|' ≠ ',' := by decide
      exact Text.not_mem_toList_intercalate hne fun o ho => (hfree o ho).2
    have hread : Rule.IsReadable ⟨"inList", some (",".intercalate offered)⟩ :=
      ⟨intercalate_ne_empty hne hcomma hblank, show '[' ∉ "inList".toList by decide⟩
    have htoken : "inList[" ++ ",".intercalate offered ++ "]" =
        Rule.render ⟨"inList", some (",".intercalate offered)⟩ := by
      rw [Rule.render, show "inList[" = "inList" ++ "[" by decide]
    rw [Rule.parseAll_intercalate (by simp), List.flatMap_append, List.flatMap_cons, htoken,
      Rule.parseAll_render hbar hread]
    rfl
  · intro messages value
    exact ((Registry.holdsBuiltins_builtin messages).execute_eq inList value _).trans
      (congrArg Except.ok (accepts_inList hne hcomma))

/-- Options with brackets and spaces, and an empty one. -/
def bracketOptions : List String := ["a]", " [b", ""]

theorem inList_intercalate_brackets :
    bracketOptions ≠ [] ∧ bracketOptions ≠ [""] ∧
      (∀ option ∈ bracketOptions, ',' ∉ option.toList ∧ '|' ∉ option.toList) ∧
      Rule.parseAll "required|inList[a], [b,]|maxLength[2]" =
        [⟨"required", none⟩, ⟨"inList", some "a], [b,"⟩, ⟨"maxLength", some "2"⟩] ∧
      (Registry.builtin .empty).execute "inList" " [b" (some "a], [b,") = .ok true ∧
      (Registry.builtin .empty).execute "inList" "[b" (some "a], [b,") = .ok false := by
  have hfree : ∀ option ∈ bracketOptions, ',' ∉ option.toList ∧ '|' ∉ option.toList := by decide
  have hlist : ",".intercalate bracketOptions = "a], [b," := by decide +kernel
  have h := inList_intercalate (by decide) (by decide) hfree
  rw [hlist] at h
  refine ⟨by decide, by decide, hfree, ?_, ?_, ?_⟩
  · exact (h.1 ["required"] ["maxLength[2]"]).trans (by decide +kernel)
  · exact (h.2 .empty " [b").trans (by decide +kernel)
  · exact (h.2 .empty "[b").trans (by decide +kernel)

end Builtin

end WebForm
