import WebForm.OrderedMap
import WebForm.Text.Replace

/-!
# Message templates

A catalog holds a message template for each rule that may fail. In a template, `{field}` stands for
what the field is called and `{params}` for the argument of the rule. The field is put in first; the
argument is put into what that gives. A rule without a template, or with an empty one, fails
silently.
-/

namespace WebForm

/-- Templates by rule name. -/
abbrev Catalog := OrderedMap String

namespace Catalog

/-- Stands for the name of the field. -/
def fieldMark : String := "\x7bfield\x7d"

/-- Stands for the argument of the rule. -/
def paramsMark : String := "\x7bparams\x7d"

/-- The template of a rule, unless it is empty. -/
def template? (catalog : Catalog) (rule : String) : Option String :=
  (catalog.get? rule).filter fun template => !template.isEmpty

/-- Fill a template in. -/
def fill (template field : String) (params : Option String) : String :=
  Text.replaceString paramsMark (params.getD "") (Text.replaceString fieldMark field template)

/-- The message for a rule that failed. -/
def render? (catalog : Catalog) (rule field : String) (params : Option String) : Option String :=
  (catalog.template? rule).map fun template => fill template field params

/-- The templates of the built-in rules. -/
def builtin : Catalog := .ofList [
  ("required", "The \x7bfield\x7d field is required."),
  ("inList", "The \x7bfield\x7d field must be one of these options: \x7bparams\x7d."),
  ("minLength", "The \x7bfield\x7d field must be at least \x7bparams\x7d characters long."),
  ("maxLength", "The \x7bfield\x7d field must not be more than \x7bparams\x7d characters long."),
  ("exactLength", "The \x7bfield\x7d field must be exactly \x7bparams\x7d characters long."),
  ("greaterThan", "The \x7bfield\x7d field must be greater than \x7bparams\x7d."),
  ("greaterThanEq", "The \x7bfield\x7d field must be greater than or equal to \x7bparams\x7d."),
  ("lessThan", "The \x7bfield\x7d field must be less than \x7bparams\x7d."),
  ("lessThanEq", "The \x7bfield\x7d field must be less than or equal to \x7bparams\x7d."),
  ("validEmail", "The \x7bfield\x7d field must be a valid e-mail.")]

end Catalog

end WebForm
