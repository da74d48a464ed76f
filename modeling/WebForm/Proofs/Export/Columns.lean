import WebForm.Export.Record

/-!
# Fields and columns

Read forwards, a rename map gives every field a column; read backwards, it gives every column to the
first field that it sends there, be it in the record or not, and to the field of the column's own
name where it sends none. Backwards undoes forwards for a field whose column no other field is sent
to. Records whose fields all have such columns have no column twice.

Results:
* `fieldFor_of_firstMapped?`, `fieldFor_of_not_mapped`: the field of any column.
* `fieldFor_columnFor`: the field of a field's own column is the field.
* `nodup_columns`: no column twice.
-/

namespace WebForm.ExportRecord

variable {record : ExportRecord} {field column : String}

/-! ## The field of a column -/

/-- The first field that the map sends to a column. -/
def firstMapped? (record : ExportRecord) (column : String) : Option String :=
  (record.map.entries.find? fun e => e.2 == column).map Prod.fst

theorem fieldFor_of_firstMapped? (h : record.firstMapped? column = some field) :
    record.fieldFor column = field := by
  obtain ⟨e, he, rfl⟩ := Option.map_eq_some_iff.mp h
  rw [fieldFor, he]

theorem fieldFor_of_not_mapped (h : record.firstMapped? column = none) :
    record.fieldFor column = column := by
  rw [fieldFor, Option.map_eq_none_iff.mp h]

/-- The first field of a column is sent there. -/
theorem mem_map_of_firstMapped? (h : record.firstMapped? column = some field) :
    (field, column) ∈ record.map.entries := by
  obtain ⟨e, he, rfl⟩ := Option.map_eq_some_iff.mp h
  have heq : e.2 = column := by simpa using List.find?_some he
  rw [← heq]
  exact List.mem_of_find?_eq_some he

/-! ## The column of a field -/

/-- A field is written to a column that the map has for it, or to the one of its own name. -/
theorem columnFor_cases (record : ExportRecord) (field : String) :
    (field, record.columnFor field) ∈ record.map.entries ∨ record.columnFor field = field := by
  unfold columnFor
  split
  · rename_i column hc
    split
    · exact Or.inr rfl
    · exact Or.inl (record.map.mem_entries_iff.mpr hc)
  · exact Or.inr rfl

/-- A field that the map sends to a column is written there, unless the column is blank. -/
theorem columnFor_of_mem_map (h : (field, column) ∈ record.map.entries) (hne : column ≠ "") :
    record.columnFor field = column := by
  unfold columnFor
  rw [record.map.mem_entries_iff.mp h]
  simp [hne]

/-- A column that the map sends no field to can only have the field of its own name. -/
theorem eq_of_columnFor_of_not_mapped (h : record.firstMapped? column = none)
    (hcolumn : record.columnFor field = column) : field = column := by
  rcases columnFor_cases record field with hm | hown
  · have hne := List.find?_eq_none.mp (Option.map_eq_none_iff.mp h) _ hm
    exact absurd (by simp [hcolumn]) hne
  · rw [← hown, hcolumn]

/-! ## There and back -/

/-- The map sends no other field to the column of the field. -/
def OwnsColumn (record : ExportRecord) (field : String) : Prop :=
  ∀ e ∈ record.map.entries, e.2 = record.columnFor field → e.1 = field

instance (record : ExportRecord) (field : String) : Decidable (record.OwnsColumn field) :=
  inferInstanceAs (Decidable (∀ e ∈ record.map.entries, _ → _))

/-- **The field of a field's own column is the field.** -/
theorem fieldFor_columnFor (h : record.OwnsColumn field) :
    record.fieldFor (record.columnFor field) = field := by
  cases hfirst : record.firstMapped? (record.columnFor field) with
  | none =>
    rw [fieldFor_of_not_mapped hfirst]
    exact (eq_of_columnFor_of_not_mapped hfirst rfl).symm
  | some first =>
    rw [fieldFor_of_firstMapped? hfirst]
    exact h _ (mem_map_of_firstMapped? hfirst) rfl

/-- No column twice. -/
theorem nodup_columns (h : ∀ field ∈ record.data.keys, record.OwnsColumn field) :
    record.columns.Nodup := by
  unfold columns
  rw [List.Nodup, List.pairwise_map]
  refine record.data.nodup.imp_of_mem fun {a b} ha hb hab heq => hab ?_
  rw [← fieldFor_columnFor (h a ha), heq, fieldFor_columnFor (h b hb)]

end WebForm.ExportRecord
