import Mathlib.Data.List.Nodup
import Mathlib.Data.List.Perm.Basic
import WebForm.Proofs.Validation.Locality

/-!
# Passes over parts of a form

Fields do not influence each other: a pass over the fields of two forms, one form after the other,
is the two passes one after the other, and the order of the fields shows only in the order of the
messages and of the valid data.

Results:
* `Form.toList_ofFields`: any fields of different names are the fields of a form.
* `Outcome.get?_ofFields`: the valid datum of a field is what the field lets through.
* `Outcome.ofFields_append`, `Outcome.ofFields_perm`: the outcome of two lists of fields, and of the
  same fields in another order.
* `validate_compositional`: the same of passes.
-/

namespace WebForm

/-! ## Forms of given fields -/

namespace Form

/-- A field of a new name comes last. -/
theorem toList_addField {form : Form} {field : Field}
    (h : field.name ∉ form.toList.map Field.name) :
    (form.addField field).toList = form.toList ++ [field] := by
  rw [map_name_toList] at h
  unfold toList addField OrderedMap.values
  rw [OrderedMap.entries_insert_of_not_mem field h, List.map_append]
  rfl

/-- Fields of new and different names come last, in their order. -/
theorem toList_addFields : ∀ (fields : List Field) (form : Form),
    ((form.toList ++ fields).map Field.name).Nodup →
      (form.addFields fields).toList = form.toList ++ fields
  | [], form, _ => (List.append_nil _).symm
  | field :: fields, form, h => by
    have hnew : field.name ∉ form.toList.map Field.name := by
      rw [List.map_append, List.map_cons, List.nodup_append] at h
      exact fun hmem => h.2.2 _ hmem _ List.mem_cons_self rfl
    have hadd := toList_addField hnew
    have hrest : (((form.addField field).toList ++ fields).map Field.name).Nodup := by
      rwa [hadd, ← List.append_cons]
    show ((form.addField field).addFields fields).toList = _
    rw [toList_addFields fields _ hrest, hadd, ← List.append_cons]

/-- **Fields of different names are the fields of a form.** -/
theorem toList_ofFields {fields : List Field} (h : (fields.map Field.name).Nodup) :
    (ofFields fields).toList = fields :=
  toList_addFields fields blank h

end Form

/-! ## Outcomes of parts -/

namespace OrderedMap

/-- The order of the entries does not matter to look-up. -/
theorem get?_eq_of_perm {α : Type} {m n : OrderedMap α} (h : m.entries.Perm n.entries)
    (key : String) : m.get? key = n.get? key := by
  ext value
  rw [← mem_entries_iff, ← mem_entries_iff, h.mem_iff]

end OrderedMap

namespace Outcome

variable {registry : Registry} {data : OrderedMap String} {fields fields' : List Field}

/-- The valid datum of a field is what the field lets through. -/
theorem get?_ofFields (h : (fields.map Field.name).Nodup) {field : Field}
    (hfield : field ∈ fields) : (ofFields registry data fields).validData.get? field.name = field.accepted? registry data := by
  ext value
  rw [← OrderedMap.mem_entries_iff, entries_ofFields h, List.mem_filterMap,
    Field.accepted?_eq_some_iff]
  simp only [Field.pair?_eq_some_iff]
  constructor
  · rintro ⟨other, hother, hname, hvalue⟩
    obtain rfl : other = field := List.inj_on_of_nodup_map h hother hfield hname
    exact hvalue
  · exact fun hvalue => ⟨field, hfield, rfl, hvalue⟩

/-- The outcome of two lists of fields is their outcomes, one after the other. -/
theorem ofFields_append (h : ((fields ++ fields').map Field.name).Nodup) :
    (ofFields registry data (fields ++ fields')).isValid =
        ((ofFields registry data fields).isValid && (ofFields registry data fields').isValid) ∧
      (ofFields registry data (fields ++ fields')).errors =
        (ofFields registry data fields).errors ++ (ofFields registry data fields').errors ∧
      (ofFields registry data (fields ++ fields')).validData.entries =
        (ofFields registry data fields).validData.entries ++
          (ofFields registry data fields').validData.entries := by
  refine ⟨?_, ?_, ?_⟩
  · simp only [ofFields_isValid, List.all_append]
  · simp only [ofFields_errors, List.flatMap_append]
  · rw [List.map_append] at h
    rw [entries_ofFields h.of_append_left, entries_ofFields h.of_append_right,
      entries_ofFields (by rwa [List.map_append]), List.filterMap_append]

/-- The outcome of fields in another order differs in the order of its parts only. -/
theorem ofFields_perm (hperm : fields.Perm fields') (h : (fields.map Field.name).Nodup) :
    (ofFields registry data fields').isValid = (ofFields registry data fields).isValid ∧
      (∀ name, (ofFields registry data fields').validData.get? name =
        (ofFields registry data fields).validData.get? name) ∧
      (ofFields registry data fields').errors.Perm (ofFields registry data fields).errors := by
  refine ⟨?_, fun name => OrderedMap.get?_eq_of_perm ?_ name, ?_⟩
  · simp only [ofFields_isValid, hperm.all_eq]
  · rw [entries_ofFields h, entries_ofFields ((hperm.map Field.name).nodup_iff.mp h)]
    exact (hperm.filterMap _).symm
  · simp only [ofFields_errors]
    exact (hperm.flatMap_right _).symm

end Outcome

/-! ## Passes -/

/-- A pass completes iff no field is at fault. -/
theorem exists_validate_eq_ok_iff {form : Form} {data : OrderedMap String} {registry : Registry} :
    (∃ outcome, validate form data registry = .ok outcome) ↔
      ∀ field ∈ form.toList, field.fault? registry = none := by
  simp only [validate_eq_ok_iff, exists_and_left, exists_eq, and_true]

/-- **Validation is compositional over fields.**
A pass over two lists of fields completes iff the passes over each complete, and then its verdict is
the conjunction of theirs, and its messages and valid data are theirs, one after the other.
The messages are a block for each field in turn, and under two submissions that hold the same of a
field, the field has the same block and the same valid datum or none.
Of the same fields in another order, a pass completes as well, with the same verdict, the same value
under every name and the same messages in some order. -/
theorem validate_compositional (registry : Registry) :
    (∀ (data : OrderedMap String) (form : Form) (first second : List Field),
      form.toList = first ++ second →
      ((∃ outcome, validate form data registry = .ok outcome) ↔
        (∃ outcome, validate (.ofFields first) data registry = .ok outcome) ∧
          ∃ outcome, validate (.ofFields second) data registry = .ok outcome) ∧
      ∀ outcome outcome₁ outcome₂, validate form data registry = .ok outcome →
        validate (.ofFields first) data registry = .ok outcome₁ →
        validate (.ofFields second) data registry = .ok outcome₂ →
        outcome.isValid = (outcome₁.isValid && outcome₂.isValid) ∧
          outcome.errors = outcome₁.errors ++ outcome₂.errors ∧
          outcome.validData.entries = outcome₁.validData.entries ++ outcome₂.validData.entries) ∧
    (∀ (form : Form) (data data' : OrderedMap String) (outcome : Outcome),
      validate form data registry = .ok outcome →
      ∃ outcome', validate form data' registry = .ok outcome' ∧
        outcome.errors = form.toList.flatMap (Field.complaints · registry data) ∧
        outcome'.errors = form.toList.flatMap (Field.complaints · registry data') ∧
        ∀ field ∈ form.toList, data.get? field.name = data'.get? field.name →
          outcome.validData.get? field.name = outcome'.validData.get? field.name ∧
            field.complaints registry data = field.complaints registry data') ∧
    (∀ (form form' : Form) (data : OrderedMap String) (outcome : Outcome),
      form.toList.Perm form'.toList → validate form data registry = .ok outcome →
      ∃ outcome', validate form' data registry = .ok outcome' ∧
        outcome'.isValid = outcome.isValid ∧
        (∀ name, outcome'.validData.get? name = outcome.validData.get? name) ∧
        outcome'.errors.Perm outcome.errors) := by
  refine ⟨fun data form first second hform => ?_, fun form data data' outcome h => ?_,
    fun form form' data outcome hperm h => ?_⟩
  · have hnodup : ((first ++ second).map Field.name).Nodup := hform ▸ form.nodup_names
    have hboth := hnodup
    rw [List.map_append] at hboth
    have hfirst := Form.toList_ofFields hboth.of_append_left
    have hsecond := Form.toList_ofFields hboth.of_append_right
    constructor
    · rw [exists_validate_eq_ok_iff, exists_validate_eq_ok_iff, exists_validate_eq_ok_iff, hform,
        hfirst, hsecond]
      exact List.forall_mem_append
    · simp only [validate_eq_ok_iff, hform, hfirst, hsecond]
      rintro _ _ _ ⟨-, rfl⟩ ⟨-, rfl⟩ ⟨-, rfl⟩
      exact Outcome.ofFields_append hnodup
  · obtain ⟨hknown, rfl⟩ := validate_eq_ok_iff.mp h
    refine ⟨_, validate_eq_ok_iff.mpr ⟨hknown, rfl⟩, Outcome.ofFields_errors,
      Outcome.ofFields_errors, fun field hfield hsame => ⟨?_, Field.complaints_congr hsame⟩⟩
    rw [Outcome.get?_ofFields form.nodup_names hfield,
      Outcome.get?_ofFields form.nodup_names hfield, Field.accepted?_congr hsame]
  · obtain ⟨hknown, rfl⟩ := validate_eq_ok_iff.mp h
    exact ⟨_, validate_eq_ok_iff.mpr ⟨fun field hfield => hknown field (hperm.mem_iff.mpr hfield),
      rfl⟩, Outcome.ofFields_perm hperm form.nodup_names⟩

/-- The fields of `fiveFields` in the opposite order. -/
def fiveFieldsReversed : Form := .ofFields fiveFields.toList.reverse

theorem validate_compositional_fiveFields :
    (∃ outcome₁ outcome₂,
      validate (.ofFields (fiveFields.toList.take 2)) fourValues paritySample = .ok outcome₁ ∧
        validate (.ofFields (fiveFields.toList.drop 2)) fourValues paritySample = .ok outcome₂ ∧
        false = (outcome₁.isValid && outcome₂.isValid) ∧
        ["Code: 2", "Code: 2"] = outcome₁.errors ++ outcome₂.errors ∧
        [("note", ""), ("nick", "")] = outcome₁.validData.entries ++ outcome₂.validData.entries) ∧
    (∃ outcome, validate fiveFields (.ofList [("code", "abc")]) paritySample = .ok outcome ∧
      some "" = outcome.validData.get? "nick") ∧
    ∃ outcome, validate fiveFieldsReversed fourValues paritySample = .ok outcome ∧
      outcome.isValid = false ∧ outcome.validData.get? "note" = some "" ∧
      outcome.errors.Perm ["Code: 2", "Code: 2"] := by
  have h : validate fiveFields fourValues paritySample =
      .ok ⟨false, ["Code: 2", "Code: 2"], .ofList [("note", ""), ("nick", "")]⟩ := by decide +kernel
  obtain ⟨hparts, hsame, hperm⟩ := validate_compositional paritySample
  refine ⟨?_, ?_, ?_⟩
  · have hsplit := (List.take_append_drop 2 fiveFields.toList).symm
    obtain ⟨⟨outcome₁, h₁⟩, outcome₂, h₂⟩ := (hparts fourValues _ _ _ hsplit).1.mp ⟨_, h⟩
    exact ⟨outcome₁, outcome₂, h₁, h₂, (hparts fourValues _ _ _ hsplit).2 _ _ _ h h₁ h₂⟩
  · obtain ⟨outcome, h', -, -, hfield⟩ :=
      hsame fiveFields fourValues (.ofList [("code", "abc")]) _ h
    let nick : Field := { Field.ofName "nick" with givenRules := some "short|even" }
    exact ⟨outcome, h', (hfield nick (by decide) (by decide)).1⟩
  · have hreversed : fiveFields.toList.Perm fiveFieldsReversed.toList := by decide +kernel
    obtain ⟨outcome, h', hvalid, hdata, herrors⟩ := hperm _ _ fourValues _ hreversed h
    exact ⟨outcome, h', hvalid, hdata "note", herrors⟩

end WebForm
