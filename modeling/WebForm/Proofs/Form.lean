import WebForm.Definition

/-!
# Forms under any sequence of edits

A form starts without fields, with given attributes, from a list of fields or from a definition.
After that fields are added and attributes are set, in any order and any number of times. What the
form holds then can be read off that history: `Origin.fields` and `Edit.field?` say which fields
were added, `Origin.attributes` and `Edit.attribute?` which attributes were given, and a key stands
where it came first, with what came last under it.

* `Origin` is how a form starts, `Edit` is what can be done to it, `editAll` does several.
* `withMethod` are the attributes of a form to which some are given.

Results:
* `fields_edit`, `attributes_edit`: what one edit does to the fields and to the attributes.
* `fields_editAll`, `attributes_editAll`: what a sequence of edits does.
* `fields_form`, `attributes_form`: what a form starts with.
* `consistent_of_edits`: the fields and attributes of a form after any edits.
-/

namespace WebForm

/-- A field under its name. -/
def Field.entry (field : Field) : String × Field := (field.name, field)

theorem Field.map_fst_entry (fields : List Field) :
    (fields.map Field.entry).map Prod.fst = fields.map Field.name := by
  rw [List.map_map]
  rfl

namespace Form

/-- How a form starts. -/
inductive Origin where
  /-- Without attributes and fields, which is also the default. -/
  | blank
  /-- With attributes, of which a name may come again. -/
  | withAttributes (attributes : List (String × String))
  /-- From fields, of which a name may come again. -/
  | collected (fields : List Field)
  /-- From a definition. -/
  | defined (definition : Definition)

namespace Origin

/-- The form at its start. -/
def form : Origin → Form
  | blank => Form.blank
  | withAttributes attributes => ofAttributes (.ofList attributes)
  | collected fields => ofFields fields
  | defined definition => definition.form

/-- The fields that were added by then, in turn. -/
def fields : Origin → List Field
  | blank => []
  | withAttributes _ => []
  | collected fields => fields
  | defined definition => definition.fields

/-- The attributes that were given by then, in turn. -/
def attributes : Origin → List (String × String)
  | blank => []
  | withAttributes attributes => attributes
  | collected _ => []
  | defined definition => definition.attributes.entries

end Origin

/-- What can be done to a form. -/
inductive Edit where
  /-- Add a field and be handed the one whose place it takes. -/
  | exchangeField (field : Field)
  | addField (field : Field)
  | setAttribute (name value : String)

namespace Edit

/-- The field that an edit adds. -/
def field? : Edit → Option Field
  | exchangeField field => some field
  | addField field => some field
  | setAttribute _ _ => none

/-- The attribute that an edit sets. -/
def attribute? : Edit → Option (String × String)
  | exchangeField _ => none
  | addField _ => none
  | setAttribute name value => some (name, value)

end Edit

/-- The form after an edit. -/
def edit (form : Form) : Edit → Form
  | .exchangeField field => (form.exchangeField field).2
  | .addField field => form.addField field
  | .setAttribute name value => form.setAttribute name value

/-- The form after edits in turn. -/
def editAll (form : Form) (edits : List Edit) : Form := edits.foldl edit form

/-- The attributes of a form to which some are given: these, and the method behind them unless it is
one of them. -/
def withMethod (attributes : List (String × String)) : List (String × String) :=
  if methodName ∈ attributes.map Prod.fst then attributes
  else attributes ++ [(methodName, defaultMethod)]

theorem mem_withMethod (attributes : List (String × String)) :
    methodName ∈ (withMethod attributes).map Prod.fst := by
  unfold withMethod
  by_cases h : methodName ∈ attributes.map Prod.fst
  · rwa [if_pos h]
  · rw [if_neg h, List.map_append]
    exact List.mem_append_right _ List.mem_cons_self

/-! ## One edit -/

/-- An edit inserts the field that it adds. -/
theorem fields_edit (form : Form) (e : Edit) :
    (form.edit e).fields = form.fields.insertAll (e.field?.toList.map Field.entry) := by
  cases e <;> rfl

/-- An edit inserts the attribute that it sets. -/
theorem attributes_edit (form : Form) (e : Edit) :
    (form.edit e).attributes = form.attributes.insertAll e.attribute?.toList := by
  cases e <;> rfl

/-! ## Edits in turn -/

theorem fields_editAll : ∀ (edits : List Edit) (form : Form),
    (form.editAll edits).fields =
      form.fields.insertAll ((edits.filterMap Edit.field?).map Field.entry)
  | [], _ => rfl
  | e :: edits, form => by
    show ((form.edit e).editAll edits).fields = _
    rw [fields_editAll edits, fields_edit, ← OrderedMap.insertAll_append, ← List.map_append]
    cases h : e.field? <;> simp [h]

theorem attributes_editAll : ∀ (edits : List Edit) (form : Form),
    (form.editAll edits).attributes =
      form.attributes.insertAll (edits.filterMap Edit.attribute?)
  | [], _ => rfl
  | e :: edits, form => by
    show ((form.edit e).editAll edits).attributes = _
    rw [attributes_editAll edits, attributes_edit, ← OrderedMap.insertAll_append]
    cases h : e.attribute? <;> simp [h]

/-- Fields that are added in turn are edits. -/
theorem addFields_eq_editAll (form : Form) (fields : List Field) :
    form.addFields fields = form.editAll (fields.map .addField) := by
  rw [addFields, editAll, List.foldl_map]
  rfl

theorem fields_addFields (form : Form) (fields : List Field) :
    (form.addFields fields).fields = form.fields.insertAll (fields.map Field.entry) := by
  have hfields : (fields.map Edit.addField).filterMap Edit.field? = fields := by
    rw [List.filterMap_map]
    exact List.filterMap_some
  rw [addFields_eq_editAll, fields_editAll, hfields]

theorem attributes_addFields (form : Form) (fields : List Field) :
    (form.addFields fields).attributes = form.attributes := by
  have hattributes : (fields.map Edit.addField).filterMap Edit.attribute? = [] := by
    rw [List.filterMap_map]
    exact List.filterMap_eq_nil_iff.mpr fun _ _ => rfl
  rw [addFields_eq_editAll, attributes_editAll, hattributes]
  rfl

/-! ## The start -/

/-- A form has the attributes that it is given, and the method. -/
theorem attributes_ofAttributes (attributes : List (String × String)) :
    (ofAttributes (.ofList attributes)).attributes = .ofList (withMethod attributes) := by
  have hcontains : (OrderedMap.ofList attributes).contains methodName = true ↔
      methodName ∈ attributes.map Prod.fst := by
    rw [OrderedMap.contains_iff, OrderedMap.keys_ofList, List.mem_eraseDups]
  unfold ofAttributes withMethod
  by_cases h : methodName ∈ attributes.map Prod.fst
  · rw [if_pos (hcontains.mpr h), if_pos h]
  · rw [if_neg (mt hcontains.mp h), if_neg h]
    exact (OrderedMap.insertAll_append .empty attributes [(methodName, defaultMethod)]).symm

/-- A form starts with the fields of its origin. -/
theorem fields_form (origin : Origin) :
    origin.form.fields = .ofList (origin.fields.map Field.entry) := by
  cases origin with
  | blank => rfl
  | withAttributes attributes => rfl
  | collected fields => exact fields_addFields blank fields
  | defined definition => exact fields_addFields _ definition.fields

/-- A form starts with the attributes of its origin, and the method. -/
theorem attributes_form (origin : Origin) :
    origin.form.attributes = .ofList (withMethod origin.attributes) := by
  cases origin with
  | blank => exact attributes_ofAttributes []
  | withAttributes attributes => exact attributes_ofAttributes attributes
  | collected fields => exact (attributes_addFields _ _).trans (attributes_ofAttributes [])
  | defined definition =>
    refine (attributes_addFields _ _).trans ?_
    rw [← OrderedMap.ofList_entries definition.attributes]
    exact attributes_ofAttributes _

/-! ## The whole history -/

variable (origin : Origin) (edits : List Edit)

theorem fields_of_edits : (origin.form.editAll edits).fields =
    .ofList ((origin.fields ++ edits.filterMap Edit.field?).map Field.entry) := by
  rw [fields_editAll, fields_form, List.map_append, OrderedMap.ofList,
    ← OrderedMap.insertAll_append]
  rfl

theorem attributes_of_edits : (origin.form.editAll edits).attributes =
    .ofList (withMethod origin.attributes ++ edits.filterMap Edit.attribute?) := by
  rw [attributes_editAll, attributes_form, OrderedMap.ofList, ← OrderedMap.insertAll_append]
  rfl

/-- **A form is an ordered schema after any edits.** From any start, when fields have been added and
attributes set in any order:
every field stands under its own name, the names are different and in the order in which they were
first added;
a name has the field that was added last under it, a further field takes the place of exactly that
one, and there are fields iff one was added;
the method is among the attributes, which are different and in the order in which they were first
given, the method last at the start unless it was given;
an attribute has the value that it was last given;
fields change no attributes, and attributes no fields.
The form of a definition comes from its attributes by adding its fields. -/
theorem consistent_of_edits :
    let form := origin.form.editAll edits
    let added := origin.fields ++ edits.filterMap Edit.field?
    let given := withMethod origin.attributes ++ edits.filterMap Edit.attribute?
    ((∀ e ∈ form.fields.entries, e.1 = e.2.name) ∧ form.fields.keys.Nodup ∧
      form.fields.keys = (added.map Field.name).eraseDups) ∧
    ((∀ name field, form.field? name = some field ↔
        OrderedMap.IsLast (added.map Field.entry) name field) ∧
      (∀ field previous, (form.exchangeField field).1 = some previous ↔
        OrderedMap.IsLast (added.map Field.entry) field.name previous) ∧
      form.fields? = if added.isEmpty then none else some form.fields) ∧
    (methodName ∈ form.attributes.keys ∧ form.attributes.keys.Nodup ∧
      form.attributes.keys = (given.map Prod.fst).eraseDups) ∧
    (∀ name value, form.attributes.get? name = some value ↔
      OrderedMap.IsLast given name value) ∧
    ((∀ field, (form.exchangeField field).2.attributes = form.attributes ∧
        (form.addField field).attributes = form.attributes) ∧
      ∀ name value, (form.setAttribute name value).fields = form.fields) ∧
    ∀ definition : Definition, definition.form =
      (ofAttributes definition.attributes).editAll (definition.fields.map .addField) := by
  intro form added given
  have hfields : form.fields = .ofList (added.map Field.entry) := fields_of_edits origin edits
  have hattributes : form.attributes = .ofList given := attributes_of_edits origin edits
  have hlast : ∀ name field, form.field? name = some field ↔
      OrderedMap.IsLast (added.map Field.entry) name field := by
    intro name field
    rw [field?, hfields, OrderedMap.get?_ofList_eq_some_iff]
  have hkeys : form.fields.keys = (added.map Field.name).eraseDups := by
    rw [hfields, OrderedMap.keys_ofList, Field.map_fst_entry]
  have hgiven : form.attributes.keys = (given.map Prod.fst).eraseDups := by
    rw [hattributes, OrderedMap.keys_ofList]
  refine ⟨⟨form.named, form.fields.nodup, hkeys⟩,
    ⟨hlast, fun field => hlast field.name, ?_⟩, ⟨?_, form.attributes.nodup, hgiven⟩, ?_,
    ⟨fun _ => ⟨rfl, rfl⟩, fun _ _ => rfl⟩, fun definition => addFields_eq_editAll _ _⟩
  · have hempty : form.fields.isEmpty = added.isEmpty := by
      rw [hfields, OrderedMap.isEmpty_ofList, List.isEmpty_map]
    rw [fields?, hempty]
  · rw [hgiven, List.mem_eraseDups, List.map_append]
    exact List.mem_append_left _ (mem_withMethod origin.attributes)
  · intro name value
    rw [hattributes, OrderedMap.get?_ofList_eq_some_iff]

end Form

end WebForm
