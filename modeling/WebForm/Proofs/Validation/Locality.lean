import WebForm.Proofs.Validation.Meaning

/-!
# What a pass reads of a submission

What a field adds to the outcome depends on what the submission holds under the name of the field,
and on nothing else in it. A field with a rule `ignore` adds nothing whatever is submitted for it.
Submissions that hold the same under every other field are judged alike, however they differ in
ignored fields, in names that are no fields, and in their order.

* `Field.TakesPart`: no rule of the field is `ignore`.
* `Form.AgreeOn`: two submissions hold the same under every field that takes part.

Results:
* `Field.passes_congr`, `Field.complaints_congr`, `Field.accepted?_congr`: the part of one field.
* `after_congr`: a field that takes no part may have any value.
* `validate_congr`: submissions that agree on a form are judged alike.
-/

namespace WebForm

variable {registry : Registry} {data data' : OrderedMap String}

namespace Field

variable {field : Field}

/-! ## A field that takes part -/

theorem valueIn_congr (h : data.get? field.name = data'.get? field.name) :
    field.valueIn data = field.valueIn data' := by
  rw [valueIn, valueIn, h]

theorem passes_congr (h : data.get? field.name = data'.get? field.name) :
    field.passes registry data = field.passes registry data' := by
  rw [passes, passes, valueIn_congr h]

theorem complaints_congr (h : data.get? field.name = data'.get? field.name) :
    field.complaints registry data = field.complaints registry data' := by
  rw [complaints, complaints, valueIn_congr h]

theorem accepted?_congr (h : data.get? field.name = data'.get? field.name) :
    field.accepted? registry data = field.accepted? registry data' := by
  unfold accepted?
  rw [h, valueIn_congr h]

/-! ## A field that takes none -/

/-- No rule of the field is `ignore`. -/
def TakesPart (field : Field) : Prop :=
  ∀ rules, field.rules? = some rules → ∀ rule ∈ rules, rule.name ≠ Rule.ignoreName

instance (field : Field) : Decidable field.TakesPart :=
  decidable_of_iff (∀ rules ∈ field.rules?.toList, ∀ rule ∈ rules, rule.name ≠ Rule.ignoreName)
    (by simp [TakesPart])

theorem exists_of_not_takesPart (h : ¬ field.TakesPart) :
    ∃ rules, field.rules? = some rules ∧ rules.any Rule.isIgnore = true := by
  simp only [TakesPart, not_forall, exists_prop] at h
  obtain ⟨rules, hrules, rule, hmem, hname⟩ := h
  refine ⟨rules, hrules, List.any_eq_true.mpr ⟨rule, hmem, ?_⟩⟩
  simpa [Rule.isIgnore] using hname

/-- A pass asks the rules of the fields that take part. -/
theorem mem_asked_iff {rule : Rule} :
    rule ∈ field.asked ↔ field.TakesPart ∧ ∃ rules, field.rules? = some rules ∧ rule ∈ rules := by
  by_cases hpart : field.TakesPart
  · cases hr : field.rules? with
    | none => simp [asked_of_unchecked hr]
    | some rules =>
      have hi := any_isIgnore_eq_false_iff.mpr (hpart rules hr)
      simp [asked_of_checked hr (Bool.not_eq_true _ ▸ hi), hpart]
  · obtain ⟨rules, hr, hi⟩ := exists_of_not_takesPart hpart
    simp [asked_of_exempt hr hi, hpart]

theorem accepted?_of_exempt {rules : List Rule} (hr : field.rules? = some rules)
    (hi : rules.any Rule.isIgnore = true) (registry : Registry) (data : OrderedMap String) :
    field.accepted? registry data = none := by
  unfold accepted?
  rw [hr]
  simp [hi]

end Field

/-! ## All fields -/

/-- A field adds the same under submissions that hold the same of it, if it takes part. -/
theorem after_congr {field : Field} (outcome : Outcome)
    (h : field.TakesPart → data.get? field.name = data'.get? field.name) :
    outcome.after registry data field = outcome.after registry data' field := by
  by_cases hpart : field.TakesPart
  · unfold Outcome.after
    rw [Field.passes_congr (h hpart), Field.complaints_congr (h hpart),
      Field.accepted?_congr (h hpart)]
  · obtain ⟨rules, hr, hi⟩ := Field.exists_of_not_takesPart hpart
    rw [after_of_asked_nil outcome (Field.asked_of_exempt hr hi),
      after_of_asked_nil outcome (Field.asked_of_exempt hr hi),
      Field.accepted?_of_exempt hr hi, Field.accepted?_of_exempt hr hi]

theorem Outcome.ofFields_congr {fields : List Field}
    (h : ∀ field ∈ fields, field.TakesPart → data.get? field.name = data'.get? field.name) :
    ofFields registry data fields = ofFields registry data' fields := by
  unfold ofFields
  exact List.foldl_ext _ _ _ fun outcome field hfield => after_congr outcome (h field hfield)

/-- The submissions hold the same under every field of the form that takes part. -/
def Form.AgreeOn (form : Form) (data data' : OrderedMap String) : Prop :=
  ∀ field ∈ form.toList, field.TakesPart → data.get? field.name = data'.get? field.name

instance (form : Form) (data data' : OrderedMap String) : Decidable (form.AgreeOn data data') :=
  inferInstanceAs (Decidable (∀ field ∈ form.toList, field.TakesPart →
    data.get? field.name = data'.get? field.name))

/-- **Submissions that agree on a form are judged alike.** -/
theorem validate_congr {form : Form} (h : form.AgreeOn data data') (registry : Registry) :
    validate form data registry = validate form data' registry := by
  rw [validate_eq, validate_eq, Outcome.ofFields_congr h]

end WebForm
