import WebForm.Definition
import WebForm.Proofs.Validation.Builtin

/-!
# A message for every failure

A rule that fails without a template makes a submission invalid and says nothing about it. The
built-in templates leave out no rule that can fail, and the templates of a definition only replace
them or add to them; so a definition that blanks none out has a message for every failure of a
built-in rule.

* `Catalog.CoversBuiltins`: every built-in rule that can fail has a template that is not empty.
* `Field.rejections`: the rules of a field that reject its value.

Results:
* `Catalog.coversBuiltins_builtin`, `Catalog.CoversBuiltins.merge`: the built-in templates cover the
  rules, and so they do under an overlay without empty templates.
* `Field.length_complaints`: a field has as many messages as it has rules that reject its value.
* `Definition.errors_of_no_blank`: a submission has as many messages as there are rejections, and is
  valid iff there is none.
-/

namespace WebForm

/-! ## Templates -/

namespace Catalog

variable {catalog upper : Catalog}

theorem template?_eq_some_iff {rule template : String} :
    catalog.template? rule = some template ↔ catalog.get? rule = some template ∧ template ≠ "" := by
  rw [template?, Option.filter_eq_some_iff]
  simp

/-- Every built-in rule that can fail has a template that is not empty. -/
def CoversBuiltins (catalog : Catalog) : Prop :=
  ∀ b : Builtin, b ≠ .ignore → ∃ template, catalog.template? b.name = some template

theorem coversBuiltins_builtin : builtin.CoversBuiltins := by
  have hall : ∀ b ∈ Builtin.all, b ≠ .ignore → (builtin.template? b.name).isSome = true := by
    decide +kernel
  exact fun b hb => Option.isSome_iff_exists.mp (hall b b.mem_all hb)

/-- Under templates that are not empty a catalog covers what it covers. -/
theorem CoversBuiltins.merge (h : catalog.CoversBuiltins)
    (hupper : ∀ e ∈ upper.entries, e.2 ≠ "") :
    CoversBuiltins (OrderedMap.merge catalog upper) := by
  intro b hb
  simp only [template?_eq_some_iff, OrderedMap.get?_merge]
  cases hu : upper.get? b.name with
  | some template => exact ⟨template, rfl, hupper _ (upper.mem_entries_iff.mpr hu)⟩
  | none =>
    obtain ⟨template, htemplate⟩ := h b hb
    exact ⟨template, template?_eq_some_iff.mp htemplate⟩

end Catalog

namespace Definition

variable {definition : Definition}

/-- A definition that blanks out no message covers the built-in rules. -/
theorem coversBuiltins_catalog
    (h : ∀ messages ∈ definition.messages, ∀ e ∈ messages.entries, e.2 ≠ "") :
    definition.catalog.CoversBuiltins := by
  unfold catalog
  cases hm : definition.messages with
  | none => exact Catalog.coversBuiltins_builtin
  | some messages => exact Catalog.coversBuiltins_builtin.merge (h messages hm)

end Definition

/-! ## Messages of a pass -/

theorem Builtin.accepts_ignore (value : String) (argument : Option String) :
    ignore.accepts value argument = true :=
  rfl

section Pass

variable {registry : Registry} {data : OrderedMap String} {form : Form} {field : Field}

/-- The rules of a field that reject its value, each as often as it is asked. -/
def Field.rejections (registry : Registry) (data : OrderedMap String) (field : Field) :
    List Rule :=
  field.asked.filter fun rule =>
    registry.execute rule.name (field.valueIn data) rule.argument = .ok false

/-- A built-in rule has a message exactly when it rejects. -/
theorem isSome_complaint? (hb : registry.HoldsBuiltins) (hc : registry.messages.CoversBuiltins)
    {rule : Rule} (hrule : ∃ b : Builtin, b.name = rule.name) (value : String) :
    (registry.complaint? field value rule).isSome =
      decide (registry.execute rule.name value rule.argument = .ok false) := by
  obtain ⟨b, hname⟩ := hrule
  rw [Registry.execute_of_hasRule (hname ▸ hb.hasRule b), Registry.complaint?]
  cases haccept : registry.accepts value rule with
  | true => simp
  | false =>
    -- Only `ignore` has no template, and it accepts everything.
    have hfails : b ≠ .ignore := by
      rintro rfl
      rw [hb.accepts_eq hname, Builtin.accepts_ignore] at haccept
      exact Bool.noConfusion haccept
    obtain ⟨template, htemplate⟩ := hc b hfails
    rw [hname] at htemplate
    simp [htemplate]

/-- A field has as many messages as it has rules that reject its value. -/
theorem Field.length_complaints (hb : registry.HoldsBuiltins)
    (hc : registry.messages.CoversBuiltins)
    (hrules : ∀ rule ∈ field.asked, ∃ b : Builtin, b.name = rule.name) :
    (field.complaints registry data).length = (field.rejections registry data).length := by
  rw [complaints, rejections, List.length_filterMap_eq_countP, ← List.countP_eq_length_filter]
  refine List.countP_congr fun rule hrule => ?_
  rw [isSome_complaint? hb hc (hrules rule hrule)]

/-- A field whose rules are known passes iff none of them rejects its value. -/
theorem Field.passes_iff_rejections (hb : registry.HoldsBuiltins)
    (hrules : ∀ rule ∈ field.asked, ∃ b : Builtin, b.name = rule.name) :
    field.passes registry data = true ↔ field.rejections registry data = [] := by
  rw [passes, rejections, List.filter_eq_nil_iff, List.all_eq_true]
  refine forall₂_congr fun rule hrule => ?_
  obtain ⟨b, hname⟩ := hrules rule hrule
  rw [Registry.execute_of_hasRule (hname ▸ hb.hasRule b)]
  simp

end Pass

/-- **No failure is silent.** Let a definition blank out no message, and let the fields of its form
that take part use built-in rules only. Whatever is submitted, the pass over its form with its
registry completes;
there are as many messages as there are rules that reject the value of their field, each counted as
often as it is asked;
the submission is valid iff there is no message. -/
theorem Definition.errors_of_no_blank {definition : Definition}
    (hmessages : ∀ messages ∈ definition.messages, ∀ e ∈ messages.entries, e.2 ≠ "")
    (hbuiltin : definition.form.UsesBuiltins) (data : OrderedMap String) :
    ∃ outcome, validate definition.form data definition.registry = .ok outcome ∧
      outcome.errors.length =
        (definition.form.toList.flatMap (Field.rejections definition.registry data)).length ∧
      (outcome.isValid = true ↔ outcome.errors = []) := by
  have hb : definition.registry.HoldsBuiltins := Registry.holdsBuiltins_builtin _
  have hc : definition.registry.messages.CoversBuiltins := coversBuiltins_catalog hmessages
  have hrules : ∀ field ∈ definition.form.toList, ∀ rule ∈ field.asked,
      ∃ b : Builtin, b.name = rule.name := fun field hfield rule => hbuiltin.of_mem_asked hfield
  refine ⟨_, hbuiltin.validate_eq_ok hb data, ?_, ?_⟩
  · rw [Outcome.ofFields_errors, List.length_flatMap, List.length_flatMap]
    refine congrArg List.sum (List.map_congr_left fun field hfield => ?_)
    exact Field.length_complaints hb hc (hrules field hfield)
  · rw [Outcome.ofFields_errors, Outcome.ofFields_isValid, List.all_eq_true,
      List.flatMap_eq_nil_iff]
    refine forall₂_congr fun field hfield => ?_
    rw [Field.passes_iff_rejections hb (hrules field hfield), ← List.length_eq_zero_iff,
      ← List.length_eq_zero_iff, Field.length_complaints hb hc (hrules field hfield)]

/-- A definition with a message of its own, and with a rule that is asked twice. -/
def strictDefinition : Definition :=
  { Definition.empty with
    fields := [
      { Field.ofName "code" with givenRules := some "minLength[3]|inList[abc,def]|minLength[3]" },
      { Field.ofName "mail" with givenRules := some "required|validEmail" },
      { Field.ofName "old" with givenRules := some "unknown|ignore" }]
    messages := some (.ofList [("required", "\x7bparams\x7d"), ("unknown", "?")]) }

/-- A value that three of the rules reject, and none for the field that is required. -/
def shortValues : OrderedMap String := .ofList [("code", "x"), ("old", "y")]

theorem Definition.errors_of_no_blank_strict :
    (∀ messages ∈ strictDefinition.messages, ∀ e ∈ messages.entries, e.2 ≠ "") ∧
      strictDefinition.form.UsesBuiltins ∧
      ∃ outcome, validate strictDefinition.form shortValues strictDefinition.registry =
          .ok outcome ∧ outcome.errors.length = 4 ∧ ¬ outcome.isValid = true := by
  have hmessages : ∀ messages ∈ strictDefinition.messages, ∀ e ∈ messages.entries, e.2 ≠ "" := by
    intro messages hm
    obtain rfl := Option.some.inj hm
    decide +kernel
  have hbuiltin : strictDefinition.form.UsesBuiltins := by decide +kernel
  obtain ⟨outcome, hrun, hlength, hvalid⟩ := errors_of_no_blank hmessages hbuiltin shortValues
  have hfour : outcome.errors.length = 4 := hlength.trans (by decide +kernel)
  refine ⟨hmessages, hbuiltin, outcome, hrun, hfour, fun h => ?_⟩
  rw [hvalid.mp h] at hfour
  exact absurd hfour (by decide)

end WebForm
