import WebForm.Validation

/-!
# A pass, field by field

`validate` carries one outcome through the fields of a form, and through the rules of each field.
Here the outcome is taken apart: what a field adds to it depends on the field, the submission and
the registry, and not on what was found before.

* `Field.asked` are the rules of a field that a pass asks: all of its expression, or none when one
  of them is `ignore`.
* `Field.unknown?` is the first of them that the registry does not know. It alone decides whether
  the field is a fault.
* `Field.passes`, `Field.complaints` and `Field.accepted?` are what the field adds to the three
  parts of the outcome.

Results:
* `checkRules_eq`, `checkField_eq`, `validate_eq`: each level of the pass, as an equation that gives
  the fault and the outcome at once.
* `validate_eq_ok_iff`: a pass completes iff every rule that is asked is known, and then its outcome
  is `Outcome.ofFields`.
* `ofFields_isValid`, `ofFields_errors`, `entries_ofFields`: the three parts of that outcome.
-/

namespace WebForm

/-! ## What one rule says -/

namespace Registry

/-- The rule is known and accepts the value. -/
def accepts (registry : Registry) (value : String) (rule : Rule) : Bool :=
  match registry.execute rule.name value rule.argument with
  | .ok passed => passed
  | .error _ => false

/-- What a rule of a field has to say about a value: nothing when it accepts the value, and nothing
when it has no template or an empty one. -/
def complaint? (registry : Registry) (field : Field) (value : String) (rule : Rule) :
    Option String :=
  if registry.accepts value rule then none
  else (registry.messages.template? rule.name).map (Catalog.fill · field.displayName rule.argument)

theorem execute_of_hasRule {registry : Registry} {rule : Rule} (h : registry.hasRule rule.name)
    (value : String) :
    registry.execute rule.name value rule.argument = .ok (registry.accepts value rule) := by
  unfold accepts execute
  obtain ⟨predicate, hp⟩ := Option.isSome_iff_exists.mp h
  rw [hp]

theorem execute_of_not_hasRule {registry : Registry} {rule : Rule}
    (h : registry.hasRule rule.name = false) (value : String) :
    registry.execute rule.name value rule.argument = .error ⟨rule.name⟩ := by
  unfold execute
  rw [Option.isSome_eq_false_iff.mp h |> Option.isNone_iff_eq_none.mp]

theorem accepts_iff {registry : Registry} {value : String} {rule : Rule} :
    registry.accepts value rule = true ↔
      registry.execute rule.name value rule.argument = .ok true := by
  unfold accepts
  split
  · rename_i passed h
    rw [h, Except.ok.injEq]
  · rename_i e h
    simp [h]

end Registry

/-! ## What one field says -/

namespace Field

/-- The rules that a pass asks about a field. -/
def asked (field : Field) : List Rule :=
  match field.rules? with
  | some rules => if rules.any Rule.isIgnore then [] else rules
  | none => []

/-- The value that the rules of a field are asked about: what was submitted, or nothing. -/
def valueIn (field : Field) (data : OrderedMap String) : String :=
  (data.get? field.name).getD ""

/-- The first rule of a field that is asked and not known. -/
def unknown? (field : Field) (registry : Registry) : Option Rule :=
  field.asked.find? fun rule => !registry.hasRule rule.name

/-- Every rule of the field that is asked accepts its value. -/
def passes (field : Field) (registry : Registry) (data : OrderedMap String) : Bool :=
  field.asked.all (registry.accepts (field.valueIn data))

/-- The messages of a field, in the order of its rules. -/
def complaints (field : Field) (registry : Registry) (data : OrderedMap String) : List String :=
  field.asked.filterMap (registry.complaint? field (field.valueIn data))

/-- The value of a field among the valid data. -/
def accepted? (field : Field) (registry : Registry) (data : OrderedMap String) : Option String :=
  match field.rules? with
  | none => data.get? field.name
  | some rules =>
    if rules.any Rule.isIgnore then none
    else if rules.all (registry.accepts (field.valueIn data)) then some (field.valueIn data)
    else none

/-- The fault of a field. -/
def fault? (field : Field) (registry : Registry) : Option UnknownRule :=
  (field.unknown? registry).map fun rule => ⟨field.name, ⟨rule.name⟩⟩

end Field

namespace Outcome

/-- The outcome after one more field. -/
def after (registry : Registry) (data : OrderedMap String) (outcome : Outcome) (field : Field) :
    Outcome where
  isValid := outcome.isValid && field.passes registry data
  errors := outcome.errors ++ field.complaints registry data
  validData :=
    match field.accepted? registry data with
    | some value => outcome.validData.insert field.name value
    | none => outcome.validData

/-- What is found of fields none of which is at fault. -/
def ofFields (registry : Registry) (data : OrderedMap String) (fields : List Field) : Outcome :=
  fields.foldl (after registry data) passing

end Outcome

/-! ## The loop over the rules of a field -/

theorem fail_complaint {registry : Registry} {field : Field} {value : String} {rule : Rule}
    (h : registry.accepts value rule = false) :
    registry.errorMessage? rule.name field.displayName rule.argument =
      registry.complaint? field value rule := by
  simp [Registry.complaint?, h, Registry.errorMessage?, Catalog.render?]

/-- **The loop over the rules.** It stops at the first rule that is not known; without one, it adds
the verdict and the messages of every rule. -/
theorem checkRules_eq (registry : Registry) (field : Field) (value : String) :
    ∀ (rules : List Rule) (passed : Bool) (outcome : Outcome),
      checkRules registry field value rules passed outcome =
        match rules.find? fun rule => !registry.hasRule rule.name with
        | some rule => .error ⟨field.name, ⟨rule.name⟩⟩
        | none => .ok (passed && rules.all (registry.accepts value),
            { outcome with
              isValid := outcome.isValid && rules.all (registry.accepts value)
              errors := outcome.errors ++ rules.filterMap (registry.complaint? field value) })
  | [], passed, outcome => by simp [checkRules]
  | rule :: rules, passed, outcome => by
    unfold checkRules
    cases hk : registry.hasRule rule.name with
    | false => simp [Registry.execute_of_not_hasRule hk, hk]
    | true =>
      rw [Registry.execute_of_hasRule hk]
      cases ha : registry.accepts value rule with
      | true =>
        have hc : registry.complaint? field value rule = none := by simp [Registry.complaint?, ha]
        simp only [checkRules_eq registry field value rules, List.find?_cons, hk, Bool.not_true,
          List.all_cons, ha, Bool.true_and, List.filterMap_cons, hc]
      | false =>
        simp only [checkRules_eq registry field value rules, List.find?_cons, hk, Bool.not_true,
          List.all_cons, ha, Bool.false_and, Bool.and_false, Outcome.fail, fail_complaint ha,
          List.filterMap_cons]
        cases registry.complaint? field value rule <;> simp

/-! ## The loop over the fields of a form -/

namespace Field

theorem asked_of_unchecked {field : Field} (h : field.rules? = none) : field.asked = [] := by
  simp [asked, h]

theorem asked_of_exempt {field : Field} {rules : List Rule} (h : field.rules? = some rules)
    (hi : rules.any Rule.isIgnore) : field.asked = [] := by
  simp [asked, h, hi]

theorem asked_of_checked {field : Field} {rules : List Rule} (h : field.rules? = some rules)
    (hi : ¬ rules.any Rule.isIgnore) : field.asked = rules := by
  simp [asked, h, hi]

end Field

/-- A field that is asked nothing adds neither a verdict nor messages. -/
theorem after_of_asked_nil {registry : Registry} {data : OrderedMap String} {field : Field}
    (outcome : Outcome) (h : field.asked = []) :
    outcome.after registry data field =
      match field.accepted? registry data with
      | some value => outcome.accept field.name value
      | none => outcome := by
  simp only [Outcome.after, Field.passes, Field.complaints, h, List.all_nil, List.filterMap_nil,
    Bool.and_true, List.append_nil]
  cases field.accepted? registry data <;> rfl

/-- **One field.** It is a fault, or it adds its part to the outcome. -/
theorem checkField_eq (registry : Registry) (data : OrderedMap String) (outcome : Outcome)
    (field : Field) :
    checkField registry data outcome field =
      match field.fault? registry with
      | some e => .error e
      | none => .ok (outcome.after registry data field) := by
  unfold checkField Field.fault? Field.unknown?
  cases hr : field.rules? with
  | none =>
    have ha := Field.asked_of_unchecked hr
    rw [after_of_asked_nil outcome ha, ha]
    simp only [List.find?_nil, Option.map_none, Field.accepted?, hr]
    cases data.get? field.name <;> rfl
  | some rules =>
    simp only
    split
    · rename_i hi
      have ha := Field.asked_of_exempt hr hi
      rw [after_of_asked_nil outcome ha, ha]
      simp [Field.accepted?, hr, hi]
    · rename_i hi
      have ha := Field.asked_of_checked hr hi
      rw [checkRules_eq, ha]
      cases hu : rules.find? fun rule => !registry.hasRule rule.name with
      | some rule => rfl
      | none =>
        have hv : (data.get? field.name).getD "" = field.valueIn data := rfl
        simp only [hv, Option.map_none, Outcome.after, Outcome.accept, Field.passes,
          Field.complaints, Field.accepted?, hr, ha, hi, Bool.true_and]
        cases rules.all (registry.accepts (field.valueIn data)) <;> simp

/-- The fields of a form from some outcome on. -/
theorem foldlM_checkField (registry : Registry) (data : OrderedMap String) :
    ∀ (fields : List Field) (outcome : Outcome),
      fields.foldlM (checkField registry data) outcome =
        match fields.findSome? (Field.fault? · registry) with
        | some e => .error e
        | none => .ok (fields.foldl (Outcome.after registry data) outcome)
  | [], _ => rfl
  | field :: fields, outcome => by
    rw [List.foldlM_cons, checkField_eq, List.findSome?_cons, List.foldl_cons]
    cases hf : field.fault? registry with
    | some e => rfl
    | none => exact foldlM_checkField registry data fields _

/-- **The pass.** The first field at fault ends it; without one, every field adds its part. -/
theorem validate_eq (form : Form) (data : OrderedMap String) (registry : Registry) :
    validate form data registry =
      match form.toList.findSome? (Field.fault? · registry) with
      | some e => .error e
      | none => .ok (.ofFields registry data form.toList) :=
  foldlM_checkField registry data form.toList .passing

/-- A pass completes iff no field is at fault, and its outcome is that of its fields. -/
theorem validate_eq_ok_iff {form : Form} {data : OrderedMap String} {registry : Registry}
    {outcome : Outcome} :
    validate form data registry = .ok outcome ↔
      (∀ field ∈ form.toList, field.fault? registry = none) ∧
        outcome = .ofFields registry data form.toList := by
  rw [validate_eq, ← List.findSome?_eq_none_iff]
  cases form.toList.findSome? (Field.fault? · registry) with
  | some e => simp
  | none => simp [eq_comm]

/-! ## The three parts of the outcome -/

section Parts

variable (registry : Registry) (data : OrderedMap String)

theorem foldl_after_isValid : ∀ (fields : List Field) (outcome : Outcome),
    (fields.foldl (Outcome.after registry data) outcome).isValid =
      (outcome.isValid && fields.all (Field.passes · registry data))
  | [], _ => by simp
  | field :: fields, outcome => by
    rw [List.foldl_cons, foldl_after_isValid fields, List.all_cons, ← Bool.and_assoc]
    rfl

theorem foldl_after_errors : ∀ (fields : List Field) (outcome : Outcome),
    (fields.foldl (Outcome.after registry data) outcome).errors =
      outcome.errors ++ fields.flatMap (Field.complaints · registry data)
  | [], _ => by simp
  | field :: fields, outcome => by
    rw [List.foldl_cons, foldl_after_errors fields, List.flatMap_cons, ← List.append_assoc]
    rfl

/-- The entry of a field among the valid data. -/
def Field.pair? (field : Field) : Option (String × String) :=
  (field.accepted? registry data).map (field.name, ·)

theorem fst_of_pair? {field : Field} {e : String × String}
    (h : field.pair? registry data = some e) : e.1 = field.name := by
  obtain ⟨value, -, rfl⟩ := Option.map_eq_some_iff.mp h
  rfl

theorem keys_after_subset {outcome : Outcome} {field : Field} {name : String}
    (h : name ∈ (outcome.after registry data field).validData.keys) :
    name = field.name ∨ name ∈ outcome.validData.keys := by
  unfold Outcome.after at h
  cases ha : field.accepted? registry data with
  | none =>
    rw [ha] at h
    exact Or.inr h
  | some value =>
    simp only [ha, OrderedMap.keys_insert] at h
    split at h
    · exact Or.inr h
    · simpa [or_comm] using h

/-- Fields of new and distinct names add their entries in their order. -/
theorem entries_foldl_after : ∀ (fields : List Field) (outcome : Outcome),
    (fields.map Field.name).Nodup →
      (∀ field ∈ fields, field.name ∉ outcome.validData.keys) →
      (fields.foldl (Outcome.after registry data) outcome).validData.entries =
        outcome.validData.entries ++ fields.filterMap (Field.pair? registry data)
  | [], _, _, _ => by simp
  | field :: fields, outcome, hnd, hnew => by
    rw [List.map_cons, List.nodup_cons] at hnd
    have hfresh : field.name ∉ outcome.validData.keys := hnew field List.mem_cons_self
    have hnew' : ∀ g ∈ fields, g.name ∉ (outcome.after registry data field).validData.keys := by
      intro g hg hmem
      rcases keys_after_subset registry data hmem with he | hk
      · exact hnd.1 (he ▸ List.mem_map_of_mem hg)
      · exact hnew g (List.mem_cons_of_mem _ hg) hk
    rw [List.foldl_cons, entries_foldl_after fields _ hnd.2 hnew', List.filterMap_cons]
    unfold Field.pair? Outcome.after
    cases field.accepted? registry data with
    | none => rfl
    | some value => simp [OrderedMap.entries_insert_of_not_mem value hfresh]

end Parts

namespace Outcome

variable {registry : Registry} {data : OrderedMap String} {fields : List Field}

theorem ofFields_isValid :
    (ofFields registry data fields).isValid = fields.all (Field.passes · registry data) := by
  rw [ofFields, foldl_after_isValid]
  rfl

theorem ofFields_errors :
    (ofFields registry data fields).errors = fields.flatMap (Field.complaints · registry data) := by
  rw [ofFields, foldl_after_errors]
  rfl

theorem entries_ofFields (h : (fields.map Field.name).Nodup) :
    (ofFields registry data fields).validData.entries =
      fields.filterMap (Field.pair? registry data) := by
  rw [ofFields, entries_foldl_after registry data fields _ h fun _ _ => List.not_mem_nil]
  rfl

end Outcome

end WebForm
