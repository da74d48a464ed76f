import Mathlib.Data.List.Basic
import WebForm.Proofs.Html.TagReader
import WebForm.Proofs.Registry
import WebForm.Proofs.Validation.Meaning

/-!
# Native constraints and the rules they come from

The renderer reads a rule expression to tell the browser what to enforce; the validator reads the
same expression to decide what is accepted. A browser that refused what the validator accepts would
keep valid submissions from ever being sent.

* `demands` is what an attribute demands of a value, said by the rule that it stands for.
* `IsSource` says which rule of a list an attribute comes from: the last one that sets it.

Results:
* `exists_isSource`: every attribute of a list of rules has a source, and its value from there.
* `exists_builtin_of_ofRule`: every rule that sets an attribute is a built-in rule.
* `demands_of_execute`: a value that a rule accepts satisfies the attribute of the rule.
* `mem_writtenAttributes`: the attributes of a list of rules are on the input of the field.
* `demands_of_valid`: every value of a valid submission satisfies the attributes on its input,
  unless its field is exempt.
* `not_demands_of_exempt`: an exempt field is rendered with its constraints all the same.
-/

namespace WebForm.NativeConstraint

/-- What an attribute demands of a value. -/
def demands (constraint limit value : String) : Bool :=
  match constraint with
  | "required" => !Text.isBlank value
  | "minlength" => Builtin.minLength.accepts value (some limit)
  | "maxlength" => Builtin.maxLength.accepts value (some limit)
  | "min" => Builtin.greaterThan.accepts value (some limit)
  | "max" => Builtin.lessThan.accepts value (some limit)
  | _ => false

/-- The rule sets the attribute, and no later rule of the list does. -/
def IsSource (rules : List Rule) (constraint limit : String) (rule : Rule) : Prop :=
  ofRule rule.name rule.argument = some (constraint, limit) ∧
    ∃ before after, rules = before ++ rule :: after ∧
      ∀ later ∈ after, ∀ other, ofRule later.name later.argument ≠ some (constraint, other)

theorem IsSource.mem {rules : List Rule} {constraint limit : String} {rule : Rule}
    (h : IsSource rules constraint limit rule) : rule ∈ rules := by
  obtain ⟨-, before, after, rfl, -⟩ := h
  exact List.mem_append_right _ List.mem_cons_self

/-! ## Where an attribute comes from -/

/-- Every attribute of a list of rules comes from the last rule that sets it. -/
theorem exists_isSource {rules : List Rule} {constraint limit : String}
    (h : (constraint, limit) ∈ (ofRules rules).entries) :
    ∃ rule, IsSource rules constraint limit rule := by
  rw [OrderedMap.mem_entries_iff, ofRules, OrderedMap.get?_ofList, List.lookup_eq_some_iff] at h
  obtain ⟨later, earlier, hsplit, hlater⟩ := h
  rw [List.reverse_eq_iff, List.reverse_append, List.reverse_cons, List.append_assoc,
    List.singleton_append, List.filterMap_eq_append_iff] at hsplit
  obtain ⟨front, back, rfl, -, hback⟩ := hsplit
  obtain ⟨middle, rule, after, rfl, -, hrule, hafter⟩ := List.filterMap_eq_cons_iff.mp hback
  refine ⟨rule, hrule, front ++ middle, after, by simp, fun next hnext other hother => ?_⟩
  have hmem : (constraint, other) ∈ later :=
    List.mem_reverse.mp (hafter ▸ List.mem_filterMap.mpr ⟨next, hnext, hother⟩)
  exact absurd (hlater _ hmem) (by simp)

/-! ## What one rule demands -/

/-- An attribute that takes its value from the argument of a rule. -/
theorem eq_of_map_pair {fixed constraint limit : String} {argument : Option String}
    (h : argument.map (fixed, ·) = some (constraint, limit)) :
    constraint = fixed ∧ argument = some limit := by
  obtain ⟨_, rfl, he⟩ := Option.map_eq_some_iff.mp h
  obtain ⟨rfl, rfl⟩ := Prod.mk.inj he
  exact ⟨rfl, rfl⟩

/-- A rule that sets an attribute is a built-in rule, and demands what the attribute does. -/
theorem exists_builtin_of_ofRule {name : String} {argument : Option String}
    {constraint limit : String} (h : ofRule name argument = some (constraint, limit)) :
    Html.isAttributeName constraint = true ∧ ∃ rule : Builtin, rule.name = name ∧
      ∀ value, rule.accepts value argument = true → demands constraint limit value = true := by
  unfold ofRule at h
  split at h
  case h_1 =>
    obtain ⟨rfl, rfl⟩ := Prod.mk.inj (Option.some.inj h)
    refine ⟨by decide, .required, rfl, fun value haccept => ?_⟩
    cases hblank : Text.isBlank value with
    | true => simp [Builtin.accepts, hblank] at haccept
    | false => simp [demands, hblank]
  case h_2 =>
    obtain ⟨rfl, rfl⟩ := eq_of_map_pair h
    exact ⟨by decide, .minLength, rfl, fun _ haccept => haccept⟩
  case h_3 =>
    obtain ⟨rfl, rfl⟩ := eq_of_map_pair h
    exact ⟨by decide, .maxLength, rfl, fun _ haccept => haccept⟩
  case h_4 =>
    obtain ⟨rfl, rfl⟩ := eq_of_map_pair h
    exact ⟨by decide, .greaterThan, rfl, fun _ haccept => haccept⟩
  case h_5 =>
    obtain ⟨rfl, rfl⟩ := eq_of_map_pair h
    exact ⟨by decide, .lessThan, rfl, fun _ haccept => haccept⟩
  case h_6 => cases h

/-- A value that a rule accepts satisfies the attribute of the rule. -/
theorem demands_of_execute {registry : Registry} (hb : registry.HoldsBuiltins) {rule : Rule}
    {value constraint limit : String}
    (hrule : ofRule rule.name rule.argument = some (constraint, limit))
    (haccept : registry.execute rule.name value rule.argument = .ok true) :
    demands constraint limit value = true := by
  obtain ⟨-, builtin, hname, hdemands⟩ := exists_builtin_of_ofRule hrule
  rw [← hname, hb.execute_eq, Except.ok.injEq] at haccept
  exact hdemands value haccept

/-! ## The input of a field -/

/-- A native constraint is on the input of its field. Its value is that of the rules, unless the
field has an attribute of that name of its own. -/
theorem mem_writtenAttributes {field : Field} {rules : List Rule}
    (hrules : field.rules? = some rules) {constraint limit : String}
    (h : (constraint, limit) ∈ (ofRules rules).entries) :
    (constraint, (field.attributes.get? constraint).getD limit) ∈
      Html.writtenAttributes (Html.inputAttributes field true) := by
  obtain ⟨rule, hrule, -⟩ := exists_isSource h
  have hname := (exists_builtin_of_ofRule hrule).1
  refine List.mem_filter.mpr ⟨?_, hname⟩
  rw [OrderedMap.mem_entries_iff] at h ⊢
  simp only [Html.inputAttributes, hrules, if_true, Option.map_some, Option.getD_some,
    OrderedMap.get?_merge, h, Option.some_or]
  cases field.attributes.get? constraint <;> rfl

/-! ## Valid submissions -/

/-- **Native constraints demand nothing that the validator does not.** Let a submission be valid for
a form under a registry that holds the built-in rules, and let a field of the form have rules, none
of them `ignore`. Each attribute that the rules give
comes from the last rule that sets it, which accepts the value of the field;
is satisfied by that value;
and is on the input of the field, with its value unless the field sets that attribute itself. -/
theorem demands_of_valid {registry : Registry} (hb : registry.HoldsBuiltins) {form : Form}
    {data : OrderedMap String} {outcome : Outcome}
    (hrun : validate form data registry = .ok outcome) (hvalid : outcome.isValid = true)
    {field : Field} (hfield : field ∈ form.toList) {rules : List Rule}
    (hrules : field.rules? = some rules) (hchecked : ∀ rule ∈ rules, rule.name ≠ Rule.ignoreName)
    {constraint limit : String} (h : (constraint, limit) ∈ (ofRules rules).entries) :
    (∃ rule, IsSource rules constraint limit rule ∧
      registry.execute rule.name (field.valueIn data) rule.argument = .ok true) ∧
    demands constraint limit (field.valueIn data) = true ∧
    (constraint, (field.attributes.get? constraint).getD limit) ∈
      Html.writtenAttributes (Html.inputAttributes field true) := by
  obtain ⟨rule, hsource⟩ := exists_isSource h
  have haccept : registry.execute rule.name (field.valueIn data) rule.argument = .ok true :=
    (validate_ok_meaning hrun).2.1.mp hvalid field hfield rules hrules hchecked rule hsource.mem
  exact ⟨⟨rule, hsource, haccept⟩, demands_of_execute hb hsource.1 haccept,
    mem_writtenAttributes hrules h⟩

/-- A registry that holds the built-in rules and a rule whose name is a bracket that does not
close. -/
def openBracketRegistry : Registry :=
  (Registry.builtin .builtin).register "maxLength[2" fun _ _ => true

/-- Two rules that set one attribute, one with an argument that it does not need, and one that sets
none. -/
def ageExpression : String := "minLength[2]|required[yes]|maxLength[2|lessThan[60]|minLength[1]"

/-- A field with these rules, which sets one of the attributes itself. -/
def ageField : Field :=
  { Field.ofName "age" with
    givenRules := some ageExpression
    attributes := .ofList [("max", "59")] }

theorem demands_of_valid_ageField :
    ofRules (Rule.parseAll ageExpression) =
        .ofList [("minlength", "1"), ("required", ""), ("max", "60")] ∧
      demands "minlength" "1" "17" = true ∧ demands "required" "" "17" = true ∧
      demands "max" "60" "17" = true ∧
      ("max", "59") ∈ Html.writtenAttributes (Html.inputAttributes ageField true) := by
  have hb : openBracketRegistry.HoldsBuiltins :=
    (Registry.holdsBuiltins_builtin _).register (fun rule => by cases rule <;> decide) _
  have hrun : validate (.ofFields [ageField]) (.ofList [("age", "17")]) openBracketRegistry =
      .ok ⟨true, [], .ofList [("age", "17")]⟩ := by decide +kernel
  have hrules : ageField.rules? = some (Rule.parseAll ageExpression) := by decide +kernel
  have hchecked : ∀ rule ∈ Rule.parseAll ageExpression, rule.name ≠ Rule.ignoreName := by
    decide +kernel
  have hfield : ageField ∈ (Form.ofFields [ageField]).toList := by decide +kernel
  have holds := fun {constraint limit} =>
    @demands_of_valid _ hb _ _ _ hrun rfl _ hfield _ hrules hchecked constraint limit
  refine ⟨by decide +kernel, (holds (by decide +kernel)).2.1, (holds (by decide +kernel)).2.1,
    (holds (by decide +kernel)).2.1, ?_⟩
  exact (@holds "max" "60" (by decide +kernel)).2.2

/-- A field that is required, and exempt. -/
def exemptField : Field := { Field.ofName "a" with givenRules := some "required|ignore" }

/-- **An exempt field is rendered with its constraints all the same.** Its value is not checked, and
need not satisfy them. -/
theorem not_demands_of_exempt :
    ¬ ∀ registry : Registry, registry.HoldsBuiltins →
      ∀ (form : Form) (data : OrderedMap String) (outcome : Outcome),
        validate form data registry = .ok outcome → outcome.isValid = true →
          ∀ field ∈ form.toList, ∀ rules, field.rules? = some rules →
            ∀ constraint limit, (constraint, limit) ∈ (ofRules rules).entries →
              demands constraint limit (field.valueIn data) = true := by
  intro h
  have hrun : validate (.ofFields [exemptField]) .empty (.builtin .builtin) =
      .ok ⟨true, [], .empty⟩ := by decide +kernel
  have hrequired := h _ (Registry.holdsBuiltins_builtin .builtin) _ _ _ hrun rfl exemptField
    (by decide +kernel) _ rfl "required" "" (by decide +kernel)
  exact absurd hrequired (by decide +kernel)

end WebForm.NativeConstraint
