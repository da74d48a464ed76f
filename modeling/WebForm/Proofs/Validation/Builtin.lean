import WebForm.Proofs.Registry
import WebForm.Proofs.Validation.Fault
import WebForm.Proofs.Validation.Locality

/-!
# Passes that ask built-in rules only

A registry that holds the built-in rules knows every rule of a form that uses no others, so a pass
over such a form completes whatever is submitted. When nothing is submitted, or nothing but white
space, its outcome does not depend on the arguments of the rules either: every built-in rule but
`required` lets a blank value through, also when its argument is missing or makes no sense.

* `Form.UsesBuiltins`: every rule of a field that takes part is a built-in one.
* `Form.BlankIn`: the fields with rules are blank in a submission, or not submitted.
* `Field.keepsBlank`: the fields that are then among the valid data.

Results:
* `Form.UsesBuiltins.validate_eq_ok`: the pass completes.
* `Registry.HoldsBuiltins.accepts_of_isBlank`: what a registry says of a blank value.
* `validate_blank`: a blank submission is valid iff nothing is required, and its valid data are the
  values of the fields that require nothing.
-/

namespace WebForm

/-! ## No fault -/

/-- Every rule of a field that takes part is a built-in one, whatever its argument. -/
def Form.UsesBuiltins (form : Form) : Prop :=
  ∀ field ∈ form.toList, field.TakesPart → ∀ rules, field.rules? = some rules →
    ∀ rule ∈ rules, ∃ b : Builtin, b.name = rule.name

instance (form : Form) : Decidable form.UsesBuiltins :=
  decidable_of_iff (∀ field ∈ form.toList, field.TakesPart → ∀ rules ∈ field.rules?.toList,
    ∀ rule ∈ rules, ∃ b ∈ Builtin.all, b.name = rule.name)
    (by simp [Form.UsesBuiltins, Builtin.mem_all])

section Builtins

variable {form : Form} {registry : Registry} {data : OrderedMap String}

theorem Form.UsesBuiltins.of_mem_asked (h : form.UsesBuiltins) {field : Field}
    (hfield : field ∈ form.toList) {rule : Rule} (hrule : rule ∈ field.asked) :
    ∃ b : Builtin, b.name = rule.name := by
  obtain ⟨hpart, rules, hrules, hmem⟩ := Field.mem_asked_iff.mp hrule
  exact h field hfield hpart rules hrules rule hmem

/-- **A pass over built-in rules completes**, whatever is submitted. -/
theorem Form.UsesBuiltins.validate_eq_ok (h : form.UsesBuiltins) (hb : registry.HoldsBuiltins)
    (data : OrderedMap String) :
    validate form data registry = .ok (.ofFields registry data form.toList) := by
  refine validate_eq_ok_iff.mpr ⟨fun field hfield => ?_, rfl⟩
  rw [Field.fault?, Option.map_eq_none_iff, Field.unknown?, List.find?_eq_none]
  intro rule hrule
  obtain ⟨b, hname⟩ := h.of_mem_asked hfield hrule
  simp [← hname, hb.hasRule b]

end Builtins

/-! ## Blank submissions -/

/-- What a registry that holds the built-in rules says of one is what the rule says. -/
theorem Registry.HoldsBuiltins.accepts_eq {registry : Registry} (hb : registry.HoldsBuiltins)
    {rule : Rule} {b : Builtin} (hname : b.name = rule.name) (value : String) :
    registry.accepts value rule = b.accepts value rule.argument := by
  rw [Registry.accepts, ← hname, hb.execute_eq]

theorem Registry.HoldsBuiltins.accepts_of_isBlank {registry : Registry}
    (hb : registry.HoldsBuiltins) {rule : Rule} (hrule : ∃ b : Builtin, b.name = rule.name)
    {value : String} (h : Text.isBlank value = true) :
    registry.accepts value rule = decide (rule.name ≠ Builtin.required.name) := by
  obtain ⟨b, hname⟩ := hrule
  rw [hb.accepts_eq hname, Builtin.accepts_of_isBlank h, ← hname]
  simp only [ne_eq, Builtin.name_inj]

namespace Field

/-- A rule of the field has the name. -/
def Declares (field : Field) (name : String) : Prop :=
  ∃ rules, field.rules? = some rules ∧ ∃ rule ∈ rules, rule.name = name

/-- The field is among the valid data of a blank submission: it has no rules and was submitted, or
it has rules and neither `ignore` nor `required` is one of them. -/
def keepsBlank (data : OrderedMap String) (field : Field) : Bool :=
  match field.rules? with
  | none => data.contains field.name
  | some rules => rules.all fun rule =>
    rule.name ≠ Rule.ignoreName && rule.name ≠ Builtin.required.name

end Field

/-- Of the fields that have rules, those that are submitted are blank. -/
def Form.BlankIn (form : Form) (data : OrderedMap String) : Prop :=
  ∀ field ∈ form.toList, field.rules? ≠ none → ∀ value, data.get? field.name = some value →
    Text.isBlank value = true

instance (form : Form) (data : OrderedMap String) : Decidable (form.BlankIn data) :=
  decidable_of_iff (∀ field ∈ form.toList, field.rules? ≠ none →
    ∀ value ∈ (data.get? field.name).toList, Text.isBlank value = true)
    (by simp [Form.BlankIn])

section Blank

variable {form : Form} {registry : Registry} {data : OrderedMap String} {field : Field}

theorem Form.BlankIn.isBlank_valueIn (h : form.BlankIn data) (hfield : field ∈ form.toList)
    (hrules : field.rules? ≠ none) : Text.isBlank (field.valueIn data) = true := by
  rw [Field.valueIn]
  cases hv : data.get? field.name with
  | none => rfl
  | some value => exact h field hfield hrules value hv

/-- A rule that is asked about a blank submission accepts it unless it is `required`. -/
theorem Form.BlankIn.accepts_eq (h : form.BlankIn data) (hbuiltin : form.UsesBuiltins)
    (hb : registry.HoldsBuiltins) (hfield : field ∈ form.toList) {rule : Rule}
    (hrule : rule ∈ field.asked) :
    registry.accepts (field.valueIn data) rule = decide (rule.name ≠ Builtin.required.name) := by
  obtain ⟨-, rules, hrules, -⟩ := Field.mem_asked_iff.mp hrule
  exact hb.accepts_of_isBlank (hbuiltin.of_mem_asked hfield hrule)
    (h.isBlank_valueIn hfield (by simp [hrules]))

theorem Form.BlankIn.passes_iff (h : form.BlankIn data) (hbuiltin : form.UsesBuiltins)
    (hb : registry.HoldsBuiltins) (hfield : field ∈ form.toList) :
    field.passes registry data = true ↔
      (field.TakesPart → ¬ field.Declares Builtin.required.name) := by
  rw [Field.passes, List.all_eq_true]
  constructor
  · rintro hall hpart ⟨rules, hrules, rule, hmem, hname⟩
    have hrule : rule ∈ field.asked := Field.mem_asked_iff.mpr ⟨hpart, rules, hrules, hmem⟩
    have haccept := hall rule hrule
    rw [h.accepts_eq hbuiltin hb hfield hrule, decide_eq_true_eq] at haccept
    exact haccept hname
  · intro hno rule hrule
    rw [h.accepts_eq hbuiltin hb hfield hrule, decide_eq_true_eq]
    obtain ⟨hpart, rules, hrules, hmem⟩ := Field.mem_asked_iff.mp hrule
    exact fun hname => hno hpart ⟨rules, hrules, rule, hmem, hname⟩

theorem Form.BlankIn.pair?_eq (h : form.BlankIn data) (hbuiltin : form.UsesBuiltins)
    (hb : registry.HoldsBuiltins) (hfield : field ∈ form.toList) :
    field.pair? registry data =
      if field.keepsBlank data then some (field.name, field.valueIn data) else none := by
  unfold Field.pair? Field.accepted? Field.keepsBlank
  cases hr : field.rules? with
  | none =>
    rw [Field.valueIn, OrderedMap.contains]
    cases data.get? field.name <;> rfl
  | some rules =>
    simp only
    split
    · rename_i hi
      -- The rule `ignore` keeps the field out on both sides.
      obtain ⟨rule, hmem, hname⟩ := List.any_eq_true.mp hi
      rw [if_neg, Option.map_none]
      simp only [List.all_eq_true, not_forall]
      exact ⟨rule, hmem, by simp [eq_of_beq hname]⟩
    · rename_i hi
      have hasked := Field.asked_of_checked hr hi
      have hall : rules.all (registry.accepts (field.valueIn data)) =
          rules.all fun rule =>
            rule.name ≠ Rule.ignoreName && rule.name ≠ Builtin.required.name := by
        rw [Bool.eq_iff_iff, List.all_eq_true, List.all_eq_true]
        refine forall₂_congr fun rule hmem => ?_
        have hnot := Field.any_isIgnore_eq_false_iff.mp (Bool.not_eq_true _ ▸ hi) rule hmem
        rw [h.accepts_eq hbuiltin hb hfield (hasked ▸ hmem)]
        simp [hnot]
      rw [hall]
      split <;> rfl

/-- **Blank submissions are judged by `required` alone.** Let the fields that take part use built-in
rules only, and let every field with rules be blank or not submitted. With the built-in rules and
any messages the pass completes;
the submission is valid iff no field that takes part has a rule `required`;
the valid data are, in the order of the form, what was submitted for the fields without rules, and
the blank value, or the empty one, of the fields with rules that are neither exempt nor required. -/
theorem validate_blank (hbuiltin : form.UsesBuiltins) (hblank : form.BlankIn data)
    (messages : Catalog) :
    ∃ outcome, validate form data (.builtin messages) = .ok outcome ∧
      (outcome.isValid = true ↔
        ∀ field ∈ form.toList, field.TakesPart → ¬ field.Declares Builtin.required.name) ∧
      outcome.validData.entries =
        (form.toList.filter (Field.keepsBlank data)).map fun field =>
          (field.name, field.valueIn data) := by
  have hb := Registry.holdsBuiltins_builtin messages
  refine ⟨_, hbuiltin.validate_eq_ok hb data, ?_, ?_⟩
  · rw [Outcome.ofFields_isValid, List.all_eq_true]
    exact forall₂_congr fun field hfield => hblank.passes_iff hbuiltin hb hfield
  · rw [Outcome.entries_ofFields form.nodup_names]
    rw [List.filterMap_congr fun field hfield => hblank.pair?_eq hbuiltin hb hfield]
    rw [← List.filterMap_eq_map, ← List.filterMap_eq_filter, List.filterMap_filterMap]
    refine List.filterMap_congr fun field _ => ?_
    rw [Option.guard]
    split <;> rfl

end Blank

/-- Rules with arguments of every kind, of which one is required and one is exempt. -/
def optionalForm : Form :=
  .ofFields [.ofName "note", .ofName "memo",
    { Field.ofName "age" with givenRules := some "greaterThan[ten]|inList" },
    { Field.ofName "mail" with givenRules := some "validEmail|required[yes]" },
    { Field.ofName "code" with givenRules := some "required|unknown|ignore" },
    { Field.ofName "nick" with givenRules := some "minLength" }]

/-- Nothing but white space, except for a field without rules. -/
def blankValues : OrderedMap String :=
  .ofList [("code", "\t"), ("age", " \u00a0"), ("note", "hi")]

theorem validate_blank_optional :
    optionalForm.UsesBuiltins ∧ optionalForm.BlankIn blankValues ∧
      ∃ outcome, validate optionalForm blankValues (.builtin .empty) = .ok outcome ∧
        ¬ outcome.isValid = true ∧
        outcome.validData.entries = [("note", "hi"), ("age", " \u00a0"), ("nick", "")] := by
  have hbuiltin : optionalForm.UsesBuiltins := by decide +kernel
  have hblank : optionalForm.BlankIn blankValues := by decide +kernel
  obtain ⟨outcome, hrun, hvalid, hentries⟩ := validate_blank hbuiltin hblank .empty
  refine ⟨hbuiltin, hblank, outcome, hrun, fun h => ?_, hentries.trans (by decide +kernel)⟩
  have hmail := hvalid.mp h
    { Field.ofName "mail" with givenRules := some "validEmail|required[yes]" }
    (by decide +kernel) (by decide +kernel)
  exact hmail ⟨_, rfl, ⟨"required", some "yes"⟩, by decide +kernel, rfl⟩

end WebForm
