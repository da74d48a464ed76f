import Mathlib.Data.List.Nodup
import WebForm.Proofs.Validation.Meaning

/-!
# When a pass faults

A rule that the registry does not know is a fault of the form. A pass asks every rule of a field
that is not exempt, whatever the rules before it said, so the form and the registry settle whether
it faults and over which rule. The submission has no say in it.

* `Field.FaultsOver`: the rule of a field that a pass faults over. The field has a rule expression
  without `ignore`, and the rule is the first of it that the registry does not know.

Results:
* `Field.fault?_eq_some_iff`, `Field.exists_faultsOver_iff`: what a field faults over, and when.
* `validate_eq_error_iff`: a pass reports the first field at fault, and its first unknown rule.
* `Validator.fault_iff_unknown_rule`: the same of a validator, for every submission, and what a
  fault leaves behind.
-/

namespace WebForm

namespace Field

variable {registry : Registry} {field : Field} {rule : Rule}

/-- The rule of a field that a pass faults over: the first that the registry does not know, of an
expression that is not empty and has no rule `ignore`. -/
inductive FaultsOver (registry : Registry) (field : Field) : Rule → Prop
  | intro {expression : String} {known rest : List Rule} {rule : Rule}
    (hexpression : field.givenRules = some expression) (hfilled : expression ≠ "")
    (hrules : Rule.parseAll expression = known ++ rule :: rest)
    (hignore : ∀ other ∈ Rule.parseAll expression, other.name ≠ Rule.ignoreName)
    (hknown : ∀ earlier ∈ known, registry.hasRule earlier.name = true)
    (hunknown : registry.hasRule rule.name = false) : FaultsOver registry field rule

/-- A field has the rules of its expression, unless that is empty. -/
theorem rules?_eq_some_iff {rules : List Rule} : field.rules? = some rules ↔
    ∃ expression, field.givenRules = some expression ∧ expression ≠ "" ∧
      Rule.parseAll expression = rules := by
  simp only [rules?, expression?, filled, Option.map_eq_some_iff, Option.filter_eq_some_iff,
    and_assoc]
  refine exists_congr fun expression => and_congr_right fun _ => and_congr_left fun _ => ?_
  simp

/-- The rules of an expression without `ignore` are asked. -/
theorem asked_eq_parseAll {expression : String} (hexpression : field.givenRules = some expression)
    (hfilled : expression ≠ "")
    (hignore : ∀ other ∈ Rule.parseAll expression, other.name ≠ Rule.ignoreName) :
    field.asked = Rule.parseAll expression := by
  have hrules := rules?_eq_some_iff.mpr ⟨expression, hexpression, hfilled, rfl⟩
  exact asked_of_checked hrules (by simp [any_isIgnore_eq_false_iff.mpr hignore])

/-- A field that is asked something is asked the rules of its expression, which has no `ignore`. -/
theorem exists_of_mem_asked (h : rule ∈ field.asked) :
    ∃ expression, field.givenRules = some expression ∧ expression ≠ "" ∧
      (∀ other ∈ Rule.parseAll expression, other.name ≠ Rule.ignoreName) ∧
      field.asked = Rule.parseAll expression := by
  cases hr : field.rules? with
  | none =>
    rw [asked_of_unchecked hr] at h
    exact absurd h List.not_mem_nil
  | some rules =>
    cases hi : rules.any Rule.isIgnore with
    | true =>
      rw [asked_of_exempt hr hi] at h
      exact absurd h List.not_mem_nil
    | false =>
      obtain ⟨expression, hexpression, hfilled, rfl⟩ := rules?_eq_some_iff.mp hr
      have hignore := any_isIgnore_eq_false_iff.mp hi
      exact ⟨expression, hexpression, hfilled, hignore,
        asked_eq_parseAll hexpression hfilled hignore⟩

theorem unknown?_eq_some_iff :
    field.unknown? registry = some rule ↔ field.FaultsOver registry rule := by
  unfold unknown?
  rw [List.find?_eq_some_iff_append]
  constructor
  · rintro ⟨hunknown, known, rest, hasked, hknown⟩
    have hmem : rule ∈ field.asked := by simp [hasked]
    obtain ⟨expression, hexpression, hfilled, hignore, heq⟩ := exists_of_mem_asked hmem
    exact .intro hexpression hfilled (heq ▸ hasked) hignore (by simpa using hknown)
      (by simpa using hunknown)
  · rintro ⟨hexpression, hfilled, hrules, hignore, hknown, hunknown⟩
    rw [asked_eq_parseAll hexpression hfilled hignore]
    exact ⟨by simpa using hunknown, _, _, hrules, by simpa using hknown⟩

/-- **A field faults over the first rule it is asked that nobody knows.** -/
theorem fault?_eq_some_iff {e : UnknownRule} :
    field.fault? registry = some e ↔
      ∃ rule, field.FaultsOver registry rule ∧ e = ⟨field.name, ⟨rule.name⟩⟩ := by
  unfold fault?
  rw [Option.map_eq_some_iff]
  simp only [unknown?_eq_some_iff]
  exact exists_congr fun rule => and_congr_right fun _ => eq_comm

theorem fault?_eq_none_iff :
    field.fault? registry = none ↔ ∀ rule, ¬ field.FaultsOver registry rule := by
  unfold fault?
  rw [Option.map_eq_none_iff, Option.eq_none_iff_forall_ne_some]
  simp only [ne_eq, unknown?_eq_some_iff]

/-- A field faults over some rule iff its expression is not empty, has no rule `ignore` and has a
rule that the registry does not know. -/
theorem exists_faultsOver_iff : (∃ rule, field.FaultsOver registry rule) ↔
    ∃ expression, field.givenRules = some expression ∧ expression ≠ "" ∧
      (∀ rule ∈ Rule.parseAll expression, rule.name ≠ Rule.ignoreName) ∧
      ∃ rule ∈ Rule.parseAll expression, registry.hasRule rule.name = false := by
  constructor
  · rintro ⟨rule, hexpression, hfilled, hrules, hignore, -, hunknown⟩
    exact ⟨_, hexpression, hfilled, hignore, rule, by simp [hrules], hunknown⟩
  · rintro ⟨expression, hexpression, hfilled, hignore, rule, hmem, hunknown⟩
    have hsome : (field.unknown? registry).isSome := by
      unfold unknown?
      rw [List.find?_isSome, asked_eq_parseAll hexpression hfilled hignore]
      exact ⟨rule, hmem, by simp [hunknown]⟩
    obtain ⟨first, hfirst⟩ := Option.isSome_iff_exists.mp hsome
    exact ⟨first, unknown?_eq_some_iff.mp hfirst⟩

end Field

/-! ## The pass -/

section Pass

variable {form : Form} {registry : Registry} {data : OrderedMap String} {e : UnknownRule}

/-- A pass faults over what the first field at fault faults over. -/
theorem validate_eq_error_iff_findSome? : validate form data registry = .error e ↔
    form.toList.findSome? (Field.fault? · registry) = some e := by
  rw [validate_eq]
  cases form.toList.findSome? (Field.fault? · registry) <;> simp

/-- **A pass reports the first field at fault** and the rule it faults over. -/
theorem validate_eq_error_iff : validate form data registry = .error e ↔
    ∃ before field after rule, form.toList = before ++ field :: after ∧
      (∀ earlier ∈ before, ∀ other, ¬ earlier.FaultsOver registry other) ∧
      field.FaultsOver registry rule ∧ e = ⟨field.name, ⟨rule.name⟩⟩ := by
  rw [validate_eq_error_iff_findSome?, List.findSome?_eq_some_iff]
  constructor
  · rintro ⟨before, field, after, hlist, hfault, hbefore⟩
    obtain ⟨rule, hrule, rfl⟩ := Field.fault?_eq_some_iff.mp hfault
    exact ⟨before, field, after, rule, hlist,
      fun earlier he => Field.fault?_eq_none_iff.mp (hbefore earlier he), hrule, rfl⟩
  · rintro ⟨before, field, after, rule, hlist, hbefore, hrule, rfl⟩
    exact ⟨before, field, after, hlist, Field.fault?_eq_some_iff.mpr ⟨rule, hrule, rfl⟩,
      fun earlier he => Field.fault?_eq_none_iff.mpr (hbefore earlier he)⟩

/-- A pass faults iff some field faults. -/
theorem exists_validate_eq_error_iff : (∃ e, validate form data registry = .error e) ↔
    ∃ field ∈ form.toList, ∃ rule, field.FaultsOver registry rule := by
  simp only [validate_eq_error_iff_findSome?]
  rw [← Option.isSome_iff_exists, List.findSome?_isSome_iff]
  refine exists_congr fun field => and_congr_right fun _ => ?_
  simp only [Option.isSome_iff_exists, Field.fault?_eq_some_iff]
  exact ⟨fun ⟨_, rule, h, _⟩ => ⟨rule, h⟩, fun ⟨rule, h⟩ => ⟨_, rule, h, rfl⟩⟩

/-- Two passes over the same form with the same registry fault alike or complete alike. -/
theorem validate_fault_eq (form : Form) (registry : Registry) (data data' : OrderedMap String) :
    (∃ e, validate form data registry = .error e ∧ validate form data' registry = .error e) ∨
      ∃ outcome outcome', validate form data registry = .ok outcome ∧
        validate form data' registry = .ok outcome' := by
  rw [validate_eq, validate_eq]
  cases form.toList.findSome? (Field.fault? · registry) with
  | some e => exact Or.inl ⟨e, rfl, rfl⟩
  | none => exact Or.inr ⟨_, _, rfl, rfl⟩

end Pass

/-! ## A validator -/

namespace Validator

/-- The first run of a validator is the pass. -/
theorem run_create_fst (form : Form) (data : OrderedMap String) (registry : Registry) :
    (create form data registry).run.1 = validate form data registry := by
  simp only [run, create]
  cases validate form data registry <;> rfl

/-- A validator whose run faults has not run, and is left as it was. -/
theorem of_run_error {v : Validator} {e : UnknownRule} (h : v.run.1 = .error e) :
    v.state = .notRun ∧ v.run.2 = v := by
  unfold run at h ⊢
  split at h
  · exact absurd h (by simp)
  · rename_i hs
    rw [hs]
    simp only
    cases hv : validate v.form v.data v.registry with
    | ok outcome =>
      rw [hv] at h
      exact absurd h (by simp)
    | error e' => exact ⟨trivial, rfl⟩

/-- **Faults are settled by the form and the registry.** A validator faults iff some field has an
expression that is not empty, has no rule `ignore` and has a rule that the registry does not know.
The fault names the first such field and its first such rule, so two submissions fault alike or
complete alike. A field with a rule `ignore` is never named. A fault leaves a validator that has not
run, without messages and without valid data. -/
theorem fault_iff_unknown_rule (form : Form) (registry : Registry) :
    (∀ data, (∃ e, (create form data registry).run.1 = .error e) ↔
      ∃ field ∈ form.toList, ∃ expression, field.givenRules = some expression ∧
        expression ≠ "" ∧ (∀ rule ∈ Rule.parseAll expression, rule.name ≠ Rule.ignoreName) ∧
        ∃ rule ∈ Rule.parseAll expression, registry.hasRule rule.name = false) ∧
    (∀ data e, (create form data registry).run.1 = .error e ↔
      ∃ before field after rule, form.toList = before ++ field :: after ∧
        (∀ earlier ∈ before, ∀ other, ¬ earlier.FaultsOver registry other) ∧
        field.FaultsOver registry rule ∧ e = ⟨field.name, ⟨rule.name⟩⟩) ∧
    (∀ data data', (∃ e, (create form data registry).run.1 = .error e ∧
        (create form data' registry).run.1 = .error e) ∨
      ∃ outcome outcome', (create form data registry).run.1 = .ok outcome ∧
        (create form data' registry).run.1 = .ok outcome') ∧
    (∀ field ∈ form.toList, ∀ rules, field.rules? = some rules →
      (∃ rule ∈ rules, rule.name = Rule.ignoreName) →
      ∀ data e, (create form data registry).run.1 = .error e → e.field ≠ field.name) ∧
    ∀ (v : Validator) (e : UnknownRule), v.run.1 = .error e →
      v.run.2.state = .notRun ∧ v.run.2.errors = [] ∧ v.run.2.validData? = none := by
  simp only [run_create_fst]
  refine ⟨fun data => ?_, fun data e => validate_eq_error_iff, validate_fault_eq form registry, ?_,
    ?_⟩
  · rw [exists_validate_eq_error_iff]
    simp only [Field.exists_faultsOver_iff]
  · rintro field hfield rules hrules ⟨rule, hrule, hignore⟩ data e he hname
    obtain ⟨before, named, after, unknown, hlist, -, hfault, rfl⟩ := validate_eq_error_iff.mp he
    -- Names are unique in a form, so the field that is named would be the exempt one.
    have hnamed : named ∈ form.toList := by simp [hlist]
    obtain rfl : named = field := List.inj_on_of_nodup_map form.nodup_names hnamed hfield hname
    obtain ⟨hexpression, hfilled, -, hi, -, -⟩ := hfault
    obtain ⟨expression, hexpression', -, rfl⟩ := Field.rules?_eq_some_iff.mp hrules
    obtain rfl := Option.some.inj (hexpression.symm.trans hexpression')
    exact hi rule hrule hignore
  · intro v e he
    obtain ⟨hstate, hleft⟩ := of_run_error he
    rw [hleft]
    simp [errors, validData?, outcome?, hstate, ValidationState.outcome?]

/-- An exempt field with a rule that nobody knows, a field that is asked two of them behind a rule
that may fail, and a field with a third. -/
def ghostFields : Form :=
  .ofFields [{ Field.ofName "old" with givenRules := some "lost|ignore" },
    { Field.ofName "code" with givenRules := some "short|ghost[1]|phantom" },
    { Field.ofName "tag" with givenRules := some "phantom" }]

theorem fault_iff_unknown_rule_ghostFields :
    (create ghostFields fourValues paritySample).run.1 = .error ⟨"code", ⟨"ghost"⟩⟩ ∧
      (create ghostFields .empty paritySample).run.1 = .error ⟨"code", ⟨"ghost"⟩⟩ ∧
      (create ghostFields fourValues paritySample).run.2.state = .notRun ∧
      (create ghostFields fourValues paritySample).run.2.errors = [] := by
  have h := fault_iff_unknown_rule ghostFields paritySample
  have hold : ∀ rule, ¬ Field.FaultsOver paritySample
      { Field.ofName "old" with givenRules := some "lost|ignore" } rule := by
    rw [← Field.fault?_eq_none_iff]
    decide +kernel
  have hcode : Field.FaultsOver paritySample
      { Field.ofName "code" with givenRules := some "short|ghost[1]|phantom" }
      ⟨"ghost", some "1"⟩ := by
    rw [← Field.unknown?_eq_some_iff]
    decide +kernel
  have hfault : ∀ data, (create ghostFields data paritySample).run.1 =
      .error ⟨"code", ⟨"ghost"⟩⟩ := fun data =>
    (h.2.1 data _).mpr ⟨[_], _, [_], _, rfl, by simpa using hold, hcode, rfl⟩
  have hleft := h.2.2.2.2 _ _ (hfault fourValues)
  exact ⟨hfault _, hfault _, hleft.1, hleft.2.1⟩

end Validator

end WebForm
