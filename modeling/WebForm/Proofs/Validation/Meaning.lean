import Mathlib.Data.List.Basic
import WebForm.Proofs.Validation.Pass

/-!
# What the outcome of a pass means

The pass accumulates a verdict, messages and values along two loops. This file says what it arrives
at without the loops.

* `Field.LetsThrough` says when a field lets a value through to the valid data: a field without
  rules lets through what was submitted for it; a field with rules, none of them `ignore`, lets its
  value through when the registry accepts it under all of them, where a value that was not submitted
  is the empty one.
* `Field.asked` are the rules of a field unless one of them is `ignore`, and `Registry.complaint?` is
  the message of a rule that rejects a value and has a template that is not empty.

Result:
* `validate_ok_meaning`: the valid data are the values let through, in the order of the form; the
  submission is valid iff every rule that is asked accepts; the messages are those of the rules that
  do not, in the order of the form and of each expression.
-/

namespace WebForm

/-- A field lets a value through. -/
inductive Field.LetsThrough (registry : Registry) (data : OrderedMap String) (field : Field) :
    String → Prop
  | unchecked {value : String} (hrules : field.rules? = none)
      (hsubmitted : data.get? field.name = some value) : LetsThrough registry data field value
  | checked {rules : List Rule} (hrules : field.rules? = some rules)
      (hignore : ∀ rule ∈ rules, rule.name ≠ Rule.ignoreName)
      (haccept : ∀ rule ∈ rules,
        registry.execute rule.name (field.valueIn data) rule.argument = .ok true) :
      LetsThrough registry data field (field.valueIn data)

namespace Field

variable {registry : Registry} {data : OrderedMap String} {field : Field}

theorem any_isIgnore_eq_false_iff {rules : List Rule} :
    rules.any Rule.isIgnore = false ↔ ∀ rule ∈ rules, rule.name ≠ Rule.ignoreName := by
  simp [Rule.isIgnore]

theorem all_accepts_iff {rules : List Rule} {value : String} :
    rules.all (registry.accepts value) = true ↔
      ∀ rule ∈ rules, registry.execute rule.name value rule.argument = .ok true := by
  simp only [List.all_eq_true, Registry.accepts_iff]

/-- The pass keeps a value iff the field lets it through. -/
theorem accepted?_eq_some_iff {value : String} :
    field.accepted? registry data = some value ↔ field.LetsThrough registry data value := by
  unfold accepted?
  constructor
  · intro h
    cases hr : field.rules? with
    | none =>
      rw [hr] at h
      exact .unchecked hr h
    | some rules =>
      rw [hr] at h
      simp only at h
      split at h
      · exact absurd h (by simp)
      · rename_i hi
        split at h
        · rename_i hall
          obtain rfl := Option.some.inj h
          exact .checked hr (any_isIgnore_eq_false_iff.mp (Bool.not_eq_true _ ▸ hi))
            (all_accepts_iff.mp hall)
        · exact absurd h (by simp)
  · rintro (⟨hr, hs⟩ | ⟨hr, hi, hall⟩)
    · rw [hr]
      exact hs
    · simp [hr, any_isIgnore_eq_false_iff.mpr hi, all_accepts_iff.mpr hall]

theorem pair?_eq_some_iff {name value : String} :
    field.pair? registry data = some (name, value) ↔
      field.name = name ∧ field.LetsThrough registry data value := by
  rw [← accepted?_eq_some_iff, pair?, Option.map_eq_some_iff]
  constructor
  · rintro ⟨v, hv, he⟩
    obtain ⟨rfl, rfl⟩ := Prod.mk.inj he
    exact ⟨rfl, hv⟩
  · rintro ⟨rfl, hv⟩
    exact ⟨value, hv, rfl⟩

/-- The entries of fields stand in the order of the fields. -/
theorem map_fst_pairs_sublist : ∀ fields : List Field,
    ((fields.filterMap (pair? registry data)).map Prod.fst).Sublist (fields.map Field.name)
  | [] => List.Sublist.slnil
  | field :: fields => by
    rw [List.filterMap_cons, List.map_cons]
    cases he : field.pair? registry data with
    | none => exact (map_fst_pairs_sublist fields).cons _
    | some e =>
      rw [List.map_cons, fst_of_pair? registry data he]
      exact (map_fst_pairs_sublist fields).cons_cons _

/-- A field passes iff its rules, unless it is exempt, all accept its value. -/
theorem passes_iff :
    field.passes registry data = true ↔
      ∀ rules, field.rules? = some rules → (∀ rule ∈ rules, rule.name ≠ Rule.ignoreName) →
        ∀ rule ∈ rules,
          registry.execute rule.name (field.valueIn data) rule.argument = .ok true := by
  unfold passes
  rw [all_accepts_iff]
  cases hr : field.rules? with
  | none => simp [asked_of_unchecked hr]
  | some rules =>
    by_cases hi : rules.any Rule.isIgnore = true
    · rw [asked_of_exempt hr hi]
      constructor
      · rintro - rules' he hnot
        obtain rfl := Option.some.inj he
        rw [any_isIgnore_eq_false_iff.mpr hnot] at hi
        exact absurd hi Bool.false_ne_true
      · intro _ rule hmem
        exact absurd hmem List.not_mem_nil
    · rw [asked_of_checked hr hi]
      constructor
      · rintro h rules' he -
        obtain rfl := Option.some.inj he
        exact h
      · intro h
        exact h rules rfl (any_isIgnore_eq_false_iff.mp (Bool.not_eq_true _ ▸ hi))

end Field

/-- **The meaning of an outcome.** Of a pass that completes:
the valid data hold each field at most once and in the order of the form, and hold a value under a
name iff the field of that name lets it through;
the submission is valid iff every field that has rules, none of them `ignore`, is accepted under all
of them;
the messages are, field by field and rule by rule, those of the rules that reject. -/
theorem validate_ok_meaning {form : Form} {data : OrderedMap String} {registry : Registry}
    {outcome : Outcome} (h : validate form data registry = .ok outcome) :
    (outcome.validData.keys.Sublist (form.toList.map Field.name) ∧
      outcome.validData.keys.Nodup ∧
      ∀ name value, (name, value) ∈ outcome.validData.entries ↔
        ∃ field ∈ form.toList, field.name = name ∧ field.LetsThrough registry data value) ∧
    (outcome.isValid = true ↔
      ∀ field ∈ form.toList, ∀ rules, field.rules? = some rules →
        (∀ rule ∈ rules, rule.name ≠ Rule.ignoreName) →
        ∀ rule ∈ rules,
          registry.execute rule.name (field.valueIn data) rule.argument = .ok true) ∧
    outcome.errors = form.toList.flatMap fun field =>
      field.asked.filterMap (registry.complaint? field (field.valueIn data)) := by
  obtain ⟨-, rfl⟩ := validate_eq_ok_iff.mp h
  have hentries : (Outcome.ofFields registry data form.toList).validData.entries =
      form.toList.filterMap (Field.pair? registry data) :=
    Outcome.entries_ofFields form.nodup_names
  refine ⟨⟨?_, OrderedMap.nodup _, fun name value => ?_⟩, ?_, Outcome.ofFields_errors⟩
  · unfold OrderedMap.keys
    rw [hentries]
    exact Field.map_fst_pairs_sublist form.toList
  · rw [hentries, List.mem_filterMap]
    exact exists_congr fun field => and_congr_right fun _ => Field.pair?_eq_some_iff
  · rw [Outcome.ofFields_isValid, List.all_eq_true]
    exact forall₂_congr fun field _ => Field.passes_iff

/-- A registry whose rule `even` has a template and whose rule `short` has none. -/
def paritySample : Registry :=
  ((Registry.empty (.ofList [("even", "\x7bfield\x7d: \x7bparams\x7d")])).register "even"
    fun value _ => value.length % 2 == 0).register "short" fun value _ => value.length < 3

/-- A field without rules, one that is asked a rule twice, one that fails silently, one that is
exempt from a rule nobody knows, and one that is not submitted. -/
def fiveFields : Form :=
  .ofFields [.ofName "note",
    { Field.ofName "code" with givenLabel := some "Code", givenRules := some "even[2]|even[2]" },
    { Field.ofName "tag" with givenRules := some "short" },
    { Field.ofName "old" with givenRules := some "unknown|ignore" },
    { Field.ofName "nick" with givenRules := some "short|even" }]

/-- A submission to `fiveFields`. -/
def fourValues : OrderedMap String :=
  .ofList [("tag", "long"), ("code", "abc"), ("note", ""), ("old", "1")]

theorem validate_ok_meaning_fiveFields :
    validate fiveFields fourValues paritySample =
        .ok ⟨false, ["Code: 2", "Code: 2"], .ofList [("note", ""), ("nick", "")]⟩ ∧
      (∀ name value, (name, value) ∈ [("note", ""), ("nick", "")] ↔
        ∃ field ∈ fiveFields.toList, field.name = name ∧
          field.LetsThrough paritySample fourValues value) ∧
      ["Code: 2", "Code: 2"] = fiveFields.toList.flatMap fun field =>
        field.asked.filterMap (paritySample.complaint? field (field.valueIn fourValues)) := by
  have h : validate fiveFields fourValues paritySample =
      .ok ⟨false, ["Code: 2", "Code: 2"], .ofList [("note", ""), ("nick", "")]⟩ := by decide +kernel
  exact ⟨h, (validate_ok_meaning h).1.2.2, (validate_ok_meaning h).2.2⟩

end WebForm
