import WebForm.Form
import WebForm.Registry
import WebForm.Json

/-!
# Validation

A pass holds the submitted values against the rules of a form. A field without rules lets its value
through; a field with the rule `ignore` takes no part; of every other field all rules are asked,
also after one has failed. The outcome says whether every rule passed, the messages of those that
did not, and the values of the fields that passed. A rule that the registry does not know is a fault
of the form and ends the pass.

`Validator` runs the pass at most once and keeps its outcome.
-/

namespace WebForm

/-- What a pass found. -/
structure Outcome where
  /-- No rule failed. -/
  isValid : Bool
  /-- The messages of the rules that failed and have one. -/
  errors : List String
  /-- The values of the fields that passed. -/
  validData : OrderedMap String
  deriving DecidableEq

/-- A field uses a rule that the registry does not know. -/
structure UnknownRule where
  field : String
  rule : RuleNotFound
  deriving DecidableEq, Repr

/-- What an unknown rule is reported as. -/
def UnknownRule.message (e : UnknownRule) : String :=
  "field '" ++ e.field ++ "' uses an unknown rule: " ++ e.rule.message

namespace Outcome

/-- Nothing found yet. -/
def passing : Outcome := ⟨true, [], .empty⟩

/-- Let a value through. -/
def accept (outcome : Outcome) (name value : String) : Outcome :=
  { outcome with validData := outcome.validData.insert name value }

/-- Record a failed rule and its message, if it has one. -/
def fail (outcome : Outcome) (message : Option String) : Outcome :=
  { outcome with isValid := false, errors := outcome.errors ++ message.toList }

/-- An outcome as a value. -/
def toJson (outcome : Outcome) : Json :=
  .object [
    ("is_valid", .bool outcome.isValid),
    ("errors", .ofTextList outcome.errors),
    ("valid_data", .ofTexts outcome.validData)]

end Outcome

/-! ## One pass -/

/-- Ask the rules of a field from left to right. The Boolean says whether all passed so far. -/
def checkRules (registry : Registry) (field : Field) (value : String) :
    List Rule → Bool → Outcome → Except UnknownRule (Bool × Outcome)
  | [], passed, outcome => .ok (passed, outcome)
  | rule :: rules, passed, outcome =>
    match registry.execute rule.name value rule.argument with
    | .error e => .error ⟨field.name, e⟩
    | .ok true => checkRules registry field value rules passed outcome
    | .ok false =>
      checkRules registry field value rules false
        (outcome.fail (registry.errorMessage? rule.name field.displayName rule.argument))

/-- The part of a field in a pass. -/
def checkField (registry : Registry) (data : OrderedMap String) (outcome : Outcome)
    (field : Field) : Except UnknownRule Outcome :=
  match field.rules? with
  | none =>
    match data.get? field.name with
    | some value => .ok (outcome.accept field.name value)
    | none => .ok outcome
  | some rules =>
    if rules.any Rule.isIgnore then .ok outcome
    else
      let value := (data.get? field.name).getD ""
      match checkRules registry field value rules true outcome with
      | .error e => .error e
      | .ok (true, outcome) => .ok (outcome.accept field.name value)
      | .ok (false, outcome) => .ok outcome

/-- Hold a submission against a form. -/
def validate (form : Form) (data : OrderedMap String) (registry : Registry) :
    Except UnknownRule Outcome :=
  form.toList.foldlM (checkField registry data) Outcome.passing

/-! ## A validator that remembers -/

/-- How far a validator has come. -/
inductive ValidationState where
  | notRun
  | done (outcome : Outcome)
  deriving DecidableEq

/-- The outcome, once there is one. -/
def ValidationState.outcome? : ValidationState → Option Outcome
  | notRun => none
  | done outcome => some outcome

/-- A form, a submission and a registry, and the outcome of their pass once it has completed. -/
structure Validator where
  form : Form
  data : OrderedMap String
  registry : Registry
  state : ValidationState

namespace Validator

/-- A validator that has not run. -/
def create (form : Form) (data : OrderedMap String) (registry : Registry) : Validator :=
  ⟨form, data, registry, .notRun⟩

/-- The outcome of the pass, which is run unless it has completed before. A fault leaves the
validator as it was. -/
def run (v : Validator) : Except UnknownRule Outcome × Validator :=
  match v.state with
  | .done outcome => (.ok outcome, v)
  | .notRun =>
    match validate v.form v.data v.registry with
    | .ok outcome => (.ok outcome, { v with state := .done outcome })
    | .error e => (.error e, v)

/-- Whether the submission is valid; runs the pass like `run`. -/
def isValid (v : Validator) : Except UnknownRule Bool × Validator :=
  let (result, v) := v.run
  (result.map Outcome.isValid, v)

/-- The outcome, once there is one. -/
def outcome? (v : Validator) : Option Outcome := v.state.outcome?

/-- The messages, none before the pass has completed. -/
def errors (v : Validator) : List String :=
  match v.outcome? with
  | some outcome => outcome.errors
  | none => []

/-- The values that passed, once the pass has completed. -/
def validData? (v : Validator) : Option (OrderedMap String) := v.outcome?.map Outcome.validData

end Validator

end WebForm
