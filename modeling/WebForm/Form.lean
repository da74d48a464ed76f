import WebForm.Field

/-!
# Forms

A form has attributes of its own and fields in the order of their definition. A field that is added
under a name that is taken replaces the other in its place. Every form has the attribute `method`:
unless it is given, it is `POST` and comes last.
-/

namespace WebForm

/-- A form. -/
structure Form where
  /-- The fields by name. -/
  fields : OrderedMap Field
  /-- The attributes of the form tag. -/
  attributes : OrderedMap String
  /-- Every field stands under its own name. -/
  named : ∀ e ∈ fields.entries, e.1 = e.2.name
  deriving DecidableEq

namespace Form

/-- The attribute that every form has. -/
def methodName : String := "method"

/-- Its value, unless it is given. -/
def defaultMethod : String := "POST"

/-- A form with attributes and no fields. -/
def ofAttributes (attributes : OrderedMap String) : Form :=
  { fields := .empty
    attributes := if attributes.contains methodName then attributes
      else attributes.insert methodName defaultMethod
    named := fun _ h => absurd h List.not_mem_nil }

/-- The form without given attributes and without fields. -/
def blank : Form := ofAttributes .empty

/-- Add a field, in place of the one of the same name. -/
def addField (form : Form) (field : Field) : Form :=
  { form with
    fields := form.fields.insert field.name field
    named := fun e h =>
      (OrderedMap.mem_entries_insert h).elim (fun he => he ▸ rfl) (form.named e) }

/-- Add fields from left to right. -/
def addFields (form : Form) (fields : List Field) : Form := fields.foldl addField form

/-- The form without given attributes that holds the fields. -/
def ofFields (fields : List Field) : Form := blank.addFields fields

/-- Set an attribute of the form tag. -/
def setAttribute (form : Form) (name value : String) : Form :=
  { form with attributes := form.attributes.insert name value }

/-- The field of a name. -/
def field? (form : Form) (name : String) : Option Field := form.fields.get? name

/-- Add a field, and hand out the one whose place it takes. -/
def exchangeField (form : Form) (field : Field) : Option Field × Form :=
  (form.field? field.name, form.addField field)

/-- The fields by name, when there are any. -/
def fields? (form : Form) : Option (OrderedMap Field) :=
  if form.fields.isEmpty then none else some form.fields

/-- The fields in their order. -/
def toList (form : Form) : List Field := form.fields.values

/-- The names of the fields are the keys they stand under. -/
theorem map_name_toList (form : Form) : form.toList.map Field.name = form.fields.keys := by
  unfold toList OrderedMap.values OrderedMap.keys
  rw [List.map_map]
  exact List.map_congr_left fun e he => (form.named e he).symm

/-- No two fields have the same name. -/
theorem nodup_names (form : Form) : (form.toList.map Field.name).Nodup :=
  form.map_name_toList ▸ form.fields.nodup

end Form

end WebForm
