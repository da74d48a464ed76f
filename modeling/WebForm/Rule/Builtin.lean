import WebForm.Rule
import WebForm.Text.Character
import WebForm.Numeral.Binary64
import WebForm.Email

/-!
# The built-in rules

Eleven rules that every registry can start with. `ignore` accepts every value; each of the others
looks at a blank value first, and all of them but `required` let it through: a field is optional
unless it says otherwise. A rule that needs a number or a list as its argument and has none rejects
every value that is not blank.

Results:
* `accepts_of_isBlank`: what the rules say of a blank value.
-/

namespace WebForm

/-- A built-in rule. -/
inductive Builtin where
  | required
  | inList
  | minLength
  | maxLength
  | exactLength
  | greaterThan
  | greaterThanEq
  | lessThan
  | lessThanEq
  | validEmail
  | ignore
  deriving DecidableEq, Repr

namespace Builtin

/-- Every built-in rule. -/
def all : List Builtin :=
  [required, inList, minLength, maxLength, exactLength, greaterThan, greaterThanEq, lessThan,
    lessThanEq, validEmail, ignore]

/-- The name of a rule in an expression. -/
def name : Builtin → String
  | required => "required"
  | inList => "inList"
  | minLength => "minLength"
  | maxLength => "maxLength"
  | exactLength => "exactLength"
  | greaterThan => "greaterThan"
  | greaterThanEq => "greaterThanEq"
  | lessThan => "lessThan"
  | lessThanEq => "lessThanEq"
  | validEmail => "validEmail"
  | ignore => Rule.ignoreName

/-! ## Lists -/

/-- The options of a list: what stands between its commas, spaces included. -/
def options (list : String) : List String := Text.splitString ',' list

/-- The value is one of the options of the argument. -/
def checkOptions (value : String) (argument : Option String) : Bool :=
  if Text.isBlank value then true
  else argument.any fun list => (options list).contains value

/-! ## Lengths -/

/-- The length that an argument sets: its number without the fraction, within 64 bits. -/
def lengthLimit? (argument : Option String) : Option Int :=
  (argument.bind Numeral.number?).map Binary64.toInt64

/-- The length of the value, in characters, stands in the given relation to the limit. -/
def checkLength (accept : Int → Int → Bool) (value : String) (argument : Option String) : Bool :=
  if Text.isBlank value then true
  else match lengthLimit? argument with
  | some limit => accept value.length limit
  | none => false

/-! ## Numbers -/

/-- The value stands in the given order to the argument. -/
def checkOrder (accept : Ordering → Bool) (value : String) (argument : Option String) : Bool :=
  if Text.isBlank value then true
  else match argument.bind (Numeral.compareText? value) with
  | some order => accept order
  | none => false

/-! ## Mail addresses -/

/-- The value is a mail address. -/
def checkAddress (value : String) : Bool :=
  if Text.isBlank value then true else Email.isValid value

/-! ## The rules -/

/-- The rule accepts the value. -/
def accepts : Builtin → String → Option String → Bool
  | required, value, _ => !Text.isBlank value
  | inList, value, argument => checkOptions value argument
  | minLength, value, argument => checkLength (fun length limit => limit ≤ length) value argument
  | maxLength, value, argument => checkLength (fun length limit => length ≤ limit) value argument
  | exactLength, value, argument => checkLength (fun length limit => length == limit) value argument
  | greaterThan, value, argument => checkOrder Ordering.isGT value argument
  | greaterThanEq, value, argument => checkOrder Ordering.isGE value argument
  | lessThan, value, argument => checkOrder Ordering.isLT value argument
  | lessThanEq, value, argument => checkOrder Ordering.isLE value argument
  | validEmail, value, _ => checkAddress value
  | ignore, _, _ => true

/-- **Every rule but `required` lets a blank value through**, whatever its argument. -/
theorem accepts_of_isBlank {value : String} (h : Text.isBlank value = true) (rule : Builtin)
    (argument : Option String) : rule.accepts value argument = decide (rule ≠ required) := by
  cases rule <;> simp [accepts, checkOptions, checkLength, checkOrder, checkAddress, h]

end Builtin

end WebForm
