import Mathlib.Data.List.Nodup
import WebForm.Proofs.Export.Append
import WebForm.Proofs.Export.Columns

/-!
# Values under their columns

A new file is laid out by reading the rename map forwards, a row at the end of an old one by reading
it backwards. Where the fields of a record have different columns, the two agree: the row holds the
value of every field under the field's column and nothing anywhere else. Two things bound this.

* The first mapping wins: a column that the map sends fields to belongs to the first of them, also
  where the record has no such field. It is then *reserved*, and stays empty.
* A column may be read back to a field that is not written there: a blank column where the map has
  a blank entry, and the own name of a field that is renamed. Such a column is a *stray*. Nothing is
  said of what a row holds there.

Results:
* `cellFor_of_columnFor`, `cellFor_eq_empty`, `cellFor_of_isReserved`: the cell of a column.
* `exportTo_places`: the row of an export to an existing file.
* `not_exportTo_places_all`: a reserved column is an exception.
-/

namespace WebForm

namespace ExportRecord

/-- The first field that the map sends to the column is not in the record. -/
def IsReserved (record : ExportRecord) (column : String) : Prop :=
  ∃ field ∈ record.firstMapped? column, field ∉ record.data.keys

instance (record : ExportRecord) (column : String) : Decidable (record.IsReserved column) :=
  inferInstanceAs (Decidable (∃ field ∈ record.firstMapped? column, _))

/-- The column is read back to a field that is not written there: it is blank and the map has a
blank entry, or it is the name of a field of the record that has another column, and the map sends
no field to it. -/
def IsStray (record : ExportRecord) (column : String) : Prop :=
  (column = "" ∧ "" ∈ record.map.values) ∨
    (column ∈ record.data.keys ∧ record.columnFor column ≠ column ∧
      record.firstMapped? column = none)

instance (record : ExportRecord) (column : String) : Decidable (record.IsStray column) :=
  inferInstanceAs (Decidable (_ ∧ _ ∨ _ ∧ _ ∧ _))

variable {record : ExportRecord} {field column : String}

/-- The first field of a column that is no stray is written there. -/
theorem columnFor_of_firstMapped? (h : record.firstMapped? column = some field)
    (hstray : ¬ record.IsStray column) : record.columnFor field = column := by
  have hm := mem_map_of_firstMapped? h
  refine columnFor_of_mem_map hm fun hblank => hstray (Or.inl ⟨hblank, ?_⟩)
  rw [← hblank]
  exact List.mem_map_of_mem hm

end ExportRecord

namespace CsvFile

open Text

variable {files : Files} {path : String} {content : List UInt8} {record : ExportRecord}
  {field column value : String}

/-! ## One cell -/

theorem cellFor_of_get? (h : record.data.get? (record.fieldFor column) = some value) :
    cellFor record column = value := by
  rw [cellFor, h, Option.getD_some]

theorem cellFor_of_not_mem (h : record.fieldFor column ∉ record.data.keys) :
    cellFor record column = "" := by
  rw [cellFor, record.data.get?_eq_none_iff.mpr h, Option.getD_none]

/-- A reserved column stays empty. -/
theorem cellFor_of_isReserved (h : record.IsReserved column) : cellFor record column = "" := by
  obtain ⟨field, hfirst, hfield⟩ := h
  apply cellFor_of_not_mem
  rwa [ExportRecord.fieldFor_of_firstMapped? hfirst]

/-- The column of a field of the record holds the value of the field. -/
theorem cellFor_of_columnFor (hcolumns : record.columns.Nodup) (hstray : ¬ record.IsStray column)
    (hreserved : ¬ record.IsReserved column) (hvalue : record.data.get? field = some value)
    (hcolumn : record.columnFor field = column) : cellFor record column = value := by
  apply cellFor_of_get?
  have hfield : field ∈ record.data.keys :=
    List.mem_map_of_mem (record.data.mem_entries_iff.mpr hvalue)
  cases hfirst : record.firstMapped? column with
  | none =>
    rw [ExportRecord.fieldFor_of_not_mapped hfirst,
      ← ExportRecord.eq_of_columnFor_of_not_mapped hfirst hcolumn, hvalue]
  | some first =>
    -- The first field is in the record and has this column too, so it is the field.
    have hmem : first ∈ record.data.keys :=
      not_not.mp fun hnot => hreserved ⟨first, hfirst, hnot⟩
    have heq : first = field := List.inj_on_of_nodup_map hcolumns hmem hfield
      ((ExportRecord.columnFor_of_firstMapped? hfirst hstray).trans hcolumn.symm)
    rw [ExportRecord.fieldFor_of_firstMapped? hfirst, heq, hvalue]

/-- A column that no field of the record has is empty. -/
theorem cellFor_eq_empty (hstray : ¬ record.IsStray column)
    (hnone : ∀ field ∈ record.data.keys, record.columnFor field ≠ column) :
    cellFor record column = "" := by
  apply cellFor_of_not_mem
  intro hmem
  cases hfirst : record.firstMapped? column with
  | none =>
    rw [ExportRecord.fieldFor_of_not_mapped hfirst] at hmem
    exact hstray (Or.inr ⟨hmem, hnone column hmem, hfirst⟩)
  | some first =>
    rw [ExportRecord.fieldFor_of_firstMapped? hfirst] at hmem
    exact hnone first hmem (ExportRecord.columnFor_of_firstMapped? hfirst hstray)

/-! ## The row -/

/-- **A row puts every value under its own column and nowhere else.** An export to a file with a
header writes one row at its end, which the file then reads as its last unless it ended between
quotes. Where the fields of the record have different columns, the row holds under each column that
is no stray the value of the field that has the column, if there is one and the column is not
reserved, and nothing otherwise. -/
theorem exportTo_places (hread : files.read path = .ok content) (hdata : record.isEmpty = false)
    (hcolumns : record.columns.Nodup) {columns : List String} {rows : List Csv.Record}
    (hrecords : Csv.records content = columns.map Utf8.encodeString :: rows) :
    ∃ after new, ∃ cell : String → String,
      exportTo files path record = .ok after ∧ after.read path = .ok new ∧
      new = Csv.ended content ++
        Csv.writeRecord (columns.map fun column => Utf8.encodeString (cell column)) ∧
      (Csv.endsInQuotes content = false → Csv.records new =
        Csv.records content ++ [columns.map fun column => Utf8.encodeString (cell column)]) ∧
      ∀ column ∈ columns, ¬ record.IsStray column →
        (∀ field value, record.data.get? field = some value → record.columnFor field = column →
          ¬ record.IsReserved column → cell column = value) ∧
        (record.IsReserved column ∨
          (∀ field ∈ record.data.keys, record.columnFor field ≠ column) → cell column = "") := by
  obtain ⟨after, hexport, hafter⟩ := exportTo_of_records hread hdata hrecords
  refine ⟨after, _, cellFor record, hexport, hafter, append_addition record content columns,
    fun hq => ?_, fun column _ hstray => ⟨?_, ?_⟩⟩
  · rw [(IsTable.append ⟨hrecords, hq⟩ record).records, hrecords]
    rfl
  · intro field value hvalue hcolumn hreserved
    exact cellFor_of_columnFor hcolumns hstray hreserved hvalue hcolumn
  · rintro (hreserved | hnone)
    · exact cellFor_of_isReserved hreserved
    · exact cellFor_eq_empty hstray hnone

/-- A record with a field that is renamed, one whose new name is blank, and one that shares its
column with a field that the record does not have. -/
def sharedRecord : ExportRecord :=
  ⟨.ofList [("name", "1"), ("note", "2"), ("mail", "3")],
    .ofList [("phone", "Contact"), ("mail", "Contact"), ("name", "Name"), ("note", "")]⟩

/-- The columns of `sharedRecord` in another order, and one more. -/
def sharedContent : List UInt8 := Utf8.encodeString "Contact,Name,extra,note"

/-- The file in its directory. -/
def sharedFiles : Files := OrderedMap.empty.insert "log.csv" (.file sharedContent)

theorem exportTo_places_shared : ∃ after new,
    exportTo sharedFiles "log.csv" sharedRecord = .ok after ∧ after.read "log.csv" = .ok new ∧
      Csv.records new = [["Contact", "Name", "extra", "note"], ["", "1", "", "2"]].map
        (·.map Utf8.encodeString) := by
  have hread : sharedFiles.read "log.csv" = .ok sharedContent := rfl
  have hdata : sharedRecord.isEmpty = false := rfl
  have hheader : Csv.records sharedContent =
      ["Contact", "Name", "extra", "note"].map Utf8.encodeString :: [] := rfl
  obtain ⟨after, new, cell, hexport, hafter, -, hrecords, hcell⟩ :=
    exportTo_places hread hdata (by decide) hheader
  refine ⟨after, new, hexport, hafter, (hrecords rfl).trans ?_⟩
  have hcontact : cell "Contact" = "" :=
    (hcell "Contact" (by decide) (by decide)).2 (Or.inl (by decide))
  have hname : cell "Name" = "1" :=
    (hcell "Name" (by decide) (by decide)).1 "name" "1" rfl (by decide) (by decide)
  have hextra : cell "extra" = "" :=
    (hcell "extra" (by decide) (by decide)).2 (Or.inr (by decide))
  have hnote : cell "note" = "2" :=
    (hcell "note" (by decide) (by decide)).1 "note" "2" rfl (by decide) (by decide)
  simp only [List.map_cons, List.map_nil, hcontact, hname, hextra, hnote]
  rfl

/-- That the fields of the record have different columns is not enough: a column can be reserved
for a field that the record does not have, and then the value of its own field is not written. -/
theorem not_exportTo_places_all : ¬ ∀ (files : Files) (path : String) (content : List UInt8)
    (record : ExportRecord) (columns : List String) (rows : List Csv.Record),
    files.read path = .ok content → record.isEmpty = false → record.columns.Nodup →
    Csv.records content = columns.map Utf8.encodeString :: rows → columns.Nodup →
    Csv.endsInQuotes content = false →
    ∃ after new, ∃ cell : String → String,
      exportTo files path record = .ok after ∧ after.read path = .ok new ∧
      Csv.records new =
        Csv.records content ++ [columns.map fun column => Utf8.encodeString (cell column)] ∧
      ∀ column ∈ columns,
        (∀ field value, record.data.get? field = some value → record.columnFor field = column →
          cell column = value) ∧
        ((∀ field ∈ record.data.keys, record.columnFor field ≠ column) → cell column = "") := by
  intro h
  have hread : sharedFiles.read "log.csv" = .ok sharedContent := rfl
  have hdata : sharedRecord.isEmpty = false := rfl
  have hheader : Csv.records sharedContent =
      ["Contact", "Name", "extra", "note"].map Utf8.encodeString :: [] := rfl
  obtain ⟨after, new, cell, hexport, hafter, hrecords, hcell⟩ :=
    h _ _ _ _ _ _ hread hdata (by decide) hheader (by decide) rfl
  have hcontact : cell "Contact" = "3" :=
    (hcell "Contact" (by decide)).1 "mail" "3" rfl (by decide)
  obtain ⟨after', hexport', hafter'⟩ := exportTo_of_records hread hdata hheader
  obtain rfl := Except.ok.inj (hexport.symm.trans hexport')
  obtain rfl := Except.ok.inj (hafter.symm.trans hafter')
  rw [(IsTable.append ⟨hheader, rfl⟩ sharedRecord).records, hheader] at hrecords
  have hrow : rowFor sharedRecord ["Contact", "Name", "extra", "note"] =
      ["Contact", "Name", "extra", "note"].map fun column => Utf8.encodeString (cell column) := by
    simpa using hrecords
  have hfirst := congrArg List.head? hrow
  rw [List.map_cons, hcontact, List.head?_cons] at hfirst
  exact absurd hfirst (by decide)

end CsvFile

end WebForm
