import WebForm.Form
import WebForm.Text.Character

/-!
# Forms as HTML

A form is written as one `form` tag, one `input` tag for each field, and the end tag. Attribute
values are escaped; names cannot be, so an attribute whose name could end early is left out.

Some rules have a counterpart among the attributes that a browser enforces before a form is
submitted: `maxLength[5]` is `maxlength="5"`. The other rules have none.
-/

namespace WebForm.NativeConstraint

/-- The attribute that enforces a rule, and its value. -/
def ofRule (name : String) (argument : Option String) : Option (String × String) :=
  match name with
  | "required" => some ("required", "")
  | "minLength" => argument.map ("minlength", ·)
  | "maxLength" => argument.map ("maxlength", ·)
  | "greaterThan" => argument.map ("min", ·)
  | "lessThan" => argument.map ("max", ·)
  | _ => none

/-- The attributes of a list of rules. A later rule overrides an earlier one of the same
attribute. -/
def ofRules (rules : List Rule) : OrderedMap String :=
  .ofList (rules.filterMap fun rule => ofRule rule.name rule.argument)

end WebForm.NativeConstraint

namespace WebForm.Html

/-- How a form is written. -/
structure Layout where
  /-- The inputs stand on a line of their own. -/
  spread : Bool
  /-- Inputs carry the native constraints of their rules. -/
  constraints : Bool
  deriving DecidableEq, Repr

/-- Inputs on a line of their own, without native constraints. -/
def Layout.standard : Layout := ⟨true, false⟩

/-- Everything on one line. -/
def Layout.minified : Layout := ⟨false, false⟩

/-! ## Tags -/

/-- An attribute value with the four characters replaced that could end it or start a reference. -/
def escape (value : List Char) : List Char :=
  value.flatMap fun c =>
    match c with
    | '&' => ['&', 'a', 'm', 'p', ';']
    | '<' => ['&', 'l', 't', ';']
    | '>' => ['&', 'g', 't', ';']
    | '"' => ['&', 'q', 'u', 'o', 't', ';']
    | c => [c]

/-- The character may stand in an attribute name. -/
def isNameChar (c : Char) : Bool :=
  !(Text.isBlankChar c || Text.isControl c || ['"', '\'', '<', '>', '/', '='].contains c)

/-- The text may be an attribute name. -/
def isAttributeName (name : String) : Bool := !name.isEmpty && name.toList.all isNameChar

/-- One attribute of a tag. -/
def writeAttribute (name value : String) : List Char :=
  ' ' :: (name.toList ++ '=' :: '"' :: (escape value.toList ++ ['"']))

/-- A start tag with the attributes whose names are acceptable. -/
def startTag (tag : String) (attributes : OrderedMap String) : List Char :=
  '<' :: (tag.toList ++
    ((attributes.entries.filter fun e => isAttributeName e.1).flatMap fun e =>
      writeAttribute e.1 e.2) ++ ['>'])

/-! ## Inputs -/

/-- The attributes of the input of a field: name, type and label, the native constraints when they
are asked for, then the field's own. An attribute that is there is overridden in its place. -/
def inputAttributes (field : Field) (constraints : Bool) : OrderedMap String :=
  let given := OrderedMap.ofList ([("name", field.name), ("type", field.inputType)] ++
    field.label?.toList.map ("placeholder", ·))
  let native := if constraints then
      field.rules?.map NativeConstraint.ofRules |>.getD .empty
    else .empty
  (given.merge native).merge field.attributes

/-- The inputs of a form. -/
def inputs (form : Form) (constraints : Bool) : List Char :=
  form.toList.flatMap fun field => startTag "input" (inputAttributes field constraints)

/-! ## Forms -/

/-- A form as HTML, without an end of line. -/
def markup (form : Form) (layout : Layout) : List Char :=
  let body := inputs form layout.constraints
  let newline := if layout.spread && !body.isEmpty then ['\n'] else []
  startTag "form" form.attributes ++ newline ++ body ++ newline ++ "</form>".toList

/-- A form as HTML, with an end of line. -/
def page (form : Form) (layout : Layout) : String :=
  String.ofList (markup form layout ++ ['\n'])

/-- A form as HTML to be put into a larger document. -/
def snippet (form : Form) : String := String.ofList (markup form .minified)

end WebForm.Html
