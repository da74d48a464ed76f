import WebForm.Catalog
import WebForm.Rule.Builtin
import WebForm.Text.Quoted

/-!
# Registries

A registry knows a predicate for each rule name that a form may use, and the catalog of messages for
the rules that fail. Names are compared exactly. Registering a name again replaces its predicate.

A predicate is a function of the value and the argument alone: it is taken to say the same whenever
it is asked about the same two.
-/

namespace WebForm

/-- A predicate on a value and the argument of its rule, and on nothing else. -/
abbrev Predicate := String → Option String → Bool

/-- Predicates by rule name, and the messages for failed rules. -/
structure Registry where
  predicates : OrderedMap Predicate
  messages : Catalog

/-- A rule has no predicate. -/
structure RuleNotFound where
  rule : String
  deriving DecidableEq, Repr

/-- What a missing rule is reported as. -/
def RuleNotFound.message (e : RuleNotFound) : String := "Rule '" ++ e.rule ++ "' does not exist."

namespace Registry

/-- No rules at all. -/
def empty (messages : Catalog) : Registry := ⟨.empty, messages⟩

/-- Add a rule, replacing the one of the same name. -/
def register (registry : Registry) (name : String) (predicate : Predicate) : Registry :=
  { registry with predicates := registry.predicates.insert name predicate }

/-- The built-in rules. -/
def builtin (messages : Catalog) : Registry :=
  Builtin.all.foldl (fun registry rule => registry.register rule.name rule.accepts)
    (empty messages)

/-- The rule has a predicate. -/
def hasRule (registry : Registry) (name : String) : Bool := registry.predicates.contains name

/-- Ask the predicate of a rule. -/
def execute (registry : Registry) (name value : String) (argument : Option String) :
    Except RuleNotFound Bool :=
  match registry.predicates.get? name with
  | some predicate => .ok (predicate value argument)
  | none => .error ⟨name⟩

/-- The template for a rule that fails. -/
def template? (registry : Registry) (name : String) : Option String :=
  registry.messages.template? name

/-- The message for a rule that failed. -/
def errorMessage? (registry : Registry) (name field : String) (argument : Option String) :
    Option String :=
  registry.messages.render? name field argument

/-- The names of the rules, in the order of their bytes. -/
def ruleNames (registry : Registry) : List String :=
  registry.predicates.keys.mergeSort fun a b => decide (a ≤ b)

/-- A one-line account of a registry: its rules, and how many messages it has. -/
def describe (registry : Registry) : String :=
  "PredicateRegistry \x7b rules: [" ++
    String.intercalate ", " (registry.ruleNames.map Text.quote) ++ "], messages: " ++
    toString registry.messages.size ++ " \x7d"

end Registry

end WebForm
