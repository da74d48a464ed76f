import WebForm.Export.CsvFile
import WebForm.Proofs.Csv.ReadBack
import WebForm.Proofs.Files

/-!
# Appending to a CSV file

An export to a file that has a header adds one record to it and keeps every byte that was there,
whatever line ends, blank lines, quotes or mark the file has, as long as it does not end between
quotes. An export to a file without records writes the file that it would have created.

* `IsTable content columns rows`: the file reads as a header of texts and rows, and does not end
  between quotes. This is what an export to an existing file needs and what it keeps.

Results:
* `newContent_eq_error_iff`: when an export comes to no content that it could write.
* `IsTable.append`: a row keeps a table, one row longer.
* `exportTo_of_isTable`, `exportTo_of_records_eq_nil`: what an export leaves at its path.
* `exportTo_existing`: the whole case of an existing file.
-/

namespace WebForm.CsvFile

open Text

variable {files : Files} {path : String} {content : List UInt8} {record : ExportRecord}

/-! ## The header -/

theorem headerTexts_encode : ∀ (n : Nat) (columns : List String),
    headerTexts n (columns.map Utf8.encodeString) = .ok columns
  | _, [] => rfl
  | n, column :: columns => by
    rw [List.map_cons, headerTexts, Utf8.decodeString_encodeString]
    simp only
    rw [headerTexts_encode (n + 1) columns]
    rfl

theorem header?_of_records {columns : List String} {rows : List Csv.Record}
    (h : Csv.records content = columns.map Utf8.encodeString :: rows) :
    header? content = .ok (some columns) := by
  unfold header?
  rw [h]
  simp only
  rw [headerTexts_encode]
  rfl

/-- A header is refused at its first cell that is no text. -/
theorem headerTexts_eq_error_iff {e : ExportError} : ∀ {n : Nat} {cells : Csv.Record},
    headerTexts n cells = .error e ↔
      ∃ before cell after, cells = before ++ cell :: after ∧
        (∀ earlier ∈ before, Utf8.decodeString? earlier ≠ none) ∧
        Utf8.decodeString? cell = none ∧ e = .header (n + before.length) (Utf8.validLength cell)
  | n, [] => by simp [headerTexts]
  | n, first :: cells => by
    unfold headerTexts
    cases hfirst : Utf8.decodeString? first with
    | none =>
      constructor
      · intro h
        exact ⟨[], first, cells, rfl, by simp, hfirst, (Except.error.inj h).symm⟩
      · rintro ⟨before, cell, after, hcells, hbefore, -, rfl⟩
        cases before with
        | nil => simp [(List.cons.inj hcells).1]
        | cons other before =>
          obtain rfl := (List.cons.inj hcells).1
          exact absurd hfirst (hbefore first List.mem_cons_self)
    | some text =>
      have hrest : (headerTexts (n + 1) cells).map (text :: ·) = .error e ↔
          headerTexts (n + 1) cells = .error e := by
        cases headerTexts (n + 1) cells <;> simp [Except.map]
      simp only
      rw [hrest, headerTexts_eq_error_iff]
      constructor
      · rintro ⟨before, cell, after, rfl, hbefore, hcell, rfl⟩
        refine ⟨first :: before, cell, after, rfl, ?_, hcell, ?_⟩
        · simpa [hfirst] using hbefore
        · rw [List.length_cons, Nat.add_assoc, Nat.add_comm 1]
      · rintro ⟨before, cell, after, hcells, hbefore, hcell, rfl⟩
        cases before with
        | nil =>
          obtain rfl := (List.cons.inj hcells).1
          exact absurd (hfirst.symm.trans hcell) (by simp)
        | cons other before =>
          obtain ⟨rfl, rfl⟩ := List.cons.inj hcells
          refine ⟨before, cell, after, rfl, fun earlier he => ?_, hcell, ?_⟩
          · exact hbefore earlier (List.mem_cons_of_mem _ he)
          · rw [List.length_cons, Nat.add_assoc, Nat.add_comm 1]

/-- The header of a file is refused when it has a cell that is no text. -/
theorem header?_eq_error_iff {e : ExportError} : header? content = .error e ↔
    ∃ before cell after rows, Csv.records content = (before ++ cell :: after) :: rows ∧
      (∀ earlier ∈ before, Utf8.decodeString? earlier ≠ none) ∧
      Utf8.decodeString? cell = none ∧ e = .header before.length (Utf8.validLength cell) := by
  unfold header?
  cases hrecords : Csv.records content with
  | nil => simp
  | cons cells rows =>
    have hmap : (headerTexts 0 cells).map some = .error e ↔ headerTexts 0 cells = .error e := by
      cases headerTexts 0 cells <;> simp [Except.map]
    simp only
    rw [hmap, headerTexts_eq_error_iff]
    constructor
    · rintro ⟨before, cell, after, rfl, hbefore, hcell, rfl⟩
      exact ⟨before, cell, after, rows, rfl, hbefore, hcell, by rw [Nat.zero_add]⟩
    · rintro ⟨before, cell, after, rows', hcells, hbefore, hcell, rfl⟩
      exact ⟨before, cell, after, (List.cons.inj hcells).1, hbefore, hcell, by rw [Nat.zero_add]⟩

/-! ## Tables -/

/-- The file reads as a header and rows, and does not end between quotes. -/
structure IsTable (content : List UInt8) (columns : List String) (rows : List Csv.Record) :
    Prop where
  records : Csv.records content = columns.map Utf8.encodeString :: rows
  outside : Csv.endsInQuotes content = false

/-- The row of a record under columns: the value of each column's field, or nothing. -/
def rowFor (record : ExportRecord) (columns : List String) : Csv.Record :=
  columns.map fun column =>
    Utf8.encodeString ((record.data.get? (record.fieldFor column)).getD "")

theorem IsTable.of_read {columns : List String} {rows : List Csv.Record}
    (h : Csv.read content =
      Csv.Reader.atRest (columns.map Utf8.encodeString :: rows).reverse) :
    IsTable content columns rows :=
  ⟨by rw [Csv.records_of_read h, List.reverse_reverse], Csv.endsInQuotes_of_read h⟩

theorem IsTable.columns_ne_nil {columns : List String} {rows : List Csv.Record}
    (h : IsTable content columns rows) : columns ≠ [] := by
  intro e
  have hm : columns.map Utf8.encodeString ∈ Csv.records content :=
    h.records ▸ List.mem_cons_self
  exact Csv.records_ne_nil hm (by rw [e, List.map_nil])

theorem append_addition (record : ExportRecord) (content : List UInt8) (columns : List String) :
    content ++ addition record content columns =
      Csv.ended content ++ Csv.writeRecord (rowFor record columns) := by
  unfold addition row Csv.ended rowFor
  rw [List.append_assoc, List.map_map]
  rfl

/-- **A row keeps a table**, one row longer. -/
theorem IsTable.append {columns : List String} {rows : List Csv.Record}
    (h : IsTable content columns rows) (record : ExportRecord) :
    IsTable (content ++ addition record content columns) columns
      (rows ++ [rowFor record columns]) := by
  have hrow : rowFor record columns ≠ [] := by simpa [rowFor] using h.columns_ne_nil
  apply IsTable.of_read
  rw [append_addition, Csv.read_ended_writeRecord h.outside hrow, h.records]
  simp

/-! ## Exports -/

theorem newContent_ok (hdata : record.isEmpty = false) (content : List UInt8) :
    newContent record (.ok content) = contentAfter record content := by
  unfold newContent
  rw [hdata]
  rfl

theorem newContent_notFound (hdata : record.isEmpty = false) :
    newContent record (.error .notFound) = .ok (create record) := by
  unfold newContent
  rw [hdata]
  rfl

/-- An export does not come to a new content when the record is empty, the file that is there cannot
be read, or its header is refused. -/
theorem newContent_eq_error_iff {old : Except FileError (List UInt8)} {e : ExportError} :
    newContent record old = .error e ↔
      record.isEmpty = true ∧ e = .noData ∨
        record.isEmpty = false ∧
          ((∃ cause, old = .error cause ∧ cause ≠ .notFound ∧ e = .file cause) ∨
            ∃ content, old = .ok content ∧ header? content = .error e) := by
  unfold newContent
  cases record.isEmpty with
  | true => simp [eq_comm]
  | false =>
    cases old with
    | error cause => cases cause <;> simp [eq_comm]
    | ok content =>
      have hafter : contentAfter record content = .error e ↔ header? content = .error e := by
        unfold contentAfter
        rcases header? content with e' | _ | columns <;> simp
      simpa using hafter

/-- An export succeeds when it comes to a new content that can be written. -/
theorem exportTo_eq_ok_iff {after : Files} : exportTo files path record = .ok after ↔
    ∃ content, newContent record (files.read path) = .ok content ∧
      files.write path content = .ok after := by
  unfold exportTo
  cases newContent record (files.read path) with
  | error e => simp
  | ok content =>
    have hwrite : (files.write path content).mapError ExportError.file = .ok after ↔
        files.write path content = .ok after := by
      rcases files.write path content with e | written
      · show (Except.error (ExportError.file e) : Except ExportError Files) = .ok after ↔ _
        simp
      · show (Except.ok written : Except ExportError Files) = .ok after ↔ _
        simp
    simpa using hwrite

/-- An export that has its content, and can write there, leaves it at the path. -/
theorem exportTo_of_newContent (h : newContent record (files.read path) = .ok content)
    (hwrite : ∃ after, files.write path content = .ok after) :
    ∃ after, exportTo files path record = .ok after ∧ after.read path = .ok content := by
  obtain ⟨after, hw⟩ := hwrite
  refine ⟨after, ?_, Files.read_of_write hw⟩
  rw [exportTo, h]
  simp only
  rw [hw]
  rfl

/-- An export to a file with a header writes a row at its end, whatever the end is. -/
theorem exportTo_of_records (hread : files.read path = .ok content)
    (hdata : record.isEmpty = false) {columns : List String} {rows : List Csv.Record}
    (h : Csv.records content = columns.map Utf8.encodeString :: rows) :
    ∃ after, exportTo files path record = .ok after ∧
      after.read path = .ok (content ++ addition record content columns) := by
  refine exportTo_of_newContent ?_ (Files.write_of_read hread _)
  rw [hread, newContent_ok hdata, contentAfter, header?_of_records h]

/-- An export to a table appends a row. -/
theorem exportTo_of_isTable (hread : files.read path = .ok content)
    (hdata : record.isEmpty = false) {columns : List String} {rows : List Csv.Record}
    (h : IsTable content columns rows) :
    ∃ after, exportTo files path record = .ok after ∧
      after.read path = .ok (content ++ addition record content columns) :=
  exportTo_of_records hread hdata h.records

/-- An export to a file without records replaces it. -/
theorem exportTo_of_records_eq_nil (hread : files.read path = .ok content)
    (hdata : record.isEmpty = false) (h : Csv.records content = []) :
    ∃ after, exportTo files path record = .ok after ∧
      after.read path = .ok (create record) := by
  refine exportTo_of_newContent ?_ (Files.write_of_read hread _)
  rw [hread, newContent_ok hdata, contentAfter, header?, h]

/-- An export to a path where nothing is creates the file. -/
theorem exportTo_of_creatable (hmissing : files.Creatable path) (hdata : record.isEmpty = false) :
    ∃ after, exportTo files path record = .ok after ∧
      after.read path = .ok (create record) := by
  obtain ⟨hread, files', hw⟩ := hmissing
  refine exportTo_of_newContent ?_ (Files.write_of_write hw _)
  rw [hread, newContent_notFound hdata]

/-- **An export to an existing file adds one record and keeps what was there.** Where the file has
a header of texts and does not end between quotes, the export succeeds, the old bytes start the new
ones, and the new records are the old ones and the row of the record. Where it has no record at
all, the export leaves the file that it would have created. -/
theorem exportTo_existing (hread : files.read path = .ok content)
    (hdata : record.isEmpty = false) :
    (∀ (columns : List String) (rows : List Csv.Record),
      Csv.records content = columns.map Utf8.encodeString :: rows →
      Csv.endsInQuotes content = false →
      ∃ after new, exportTo files path record = .ok after ∧ after.read path = .ok new ∧
        content <+: new ∧
        Csv.records new = Csv.records content ++ [columns.map fun column =>
          Utf8.encodeString ((record.data.get? (record.fieldFor column)).getD "")]) ∧
    (Csv.records content = [] →
      ∃ after, exportTo files path record = .ok after ∧
        ∀ missing : Files, missing.Creatable path →
          ∃ created, exportTo missing path record = .ok created ∧
            after.read path = created.read path) := by
  constructor
  · intro columns rows hrecords hq
    have htable : IsTable content columns rows := ⟨hrecords, hq⟩
    obtain ⟨after, hexport, hafter⟩ := exportTo_of_isTable hread hdata htable
    refine ⟨after, _, hexport, hafter, List.prefix_append _ _, ?_⟩
    rw [(htable.append record).records, hrecords]
    rfl
  · intro hrecords
    obtain ⟨after, hexport, hafter⟩ := exportTo_of_records_eq_nil hread hdata hrecords
    refine ⟨after, hexport, fun missing hmissing => ?_⟩
    obtain ⟨created, hcreated, hnew⟩ := exportTo_of_creatable hmissing hdata
    exact ⟨created, hcreated, hafter.trans hnew.symm⟩

/-- A file with a mark, a blank line, a heading over two lines and no line end at its end. -/
def sampleContent : List UInt8 :=
  0xEF :: 0xBB :: 0xBF :: Utf8.encodeString "\r\nname,\"a\nb\"\r\nx"

/-- The file in its directory. -/
def sampleFiles : Files := OrderedMap.empty.insert "log.csv" (.file sampleContent)

/-- A record with a renamed field and a line end in its value. -/
def sampleRecord : ExportRecord :=
  ⟨.ofList [("note", "\r\n"), ("name", "1")], .ofList [("note", "a\nb")]⟩

/-- A file of blank lines. -/
def blankFiles : Files := OrderedMap.empty.insert "log.csv" (.file [0x0D, 0x0A, 0x0A])

theorem exportTo_existing_sample :
    (∃ after new, exportTo sampleFiles "log.csv" sampleRecord = .ok after ∧
      after.read "log.csv" = .ok new ∧ sampleContent <+: new ∧
      Csv.records new = [["name", "a\nb"], ["x"], ["1", "\r\n"]].map
        (·.map Utf8.encodeString)) ∧
    ∃ after created, exportTo blankFiles "log.csv" sampleRecord = .ok after ∧
      exportTo .empty "log.csv" sampleRecord = .ok created ∧
      after.read "log.csv" = created.read "log.csv" := by
  have hdata : sampleRecord.isEmpty = false := rfl
  constructor
  · have hread : sampleFiles.read "log.csv" = .ok sampleContent := rfl
    obtain ⟨after, new, hexport, hafter, hprefix, hrecords⟩ :=
      (exportTo_existing hread hdata).1 ["name", "a\nb"] [[Utf8.encodeString "x"]] rfl rfl
    exact ⟨after, new, hexport, hafter, hprefix, hrecords⟩
  · have hread : blankFiles.read "log.csv" = .ok [0x0D, 0x0A, 0x0A] := rfl
    obtain ⟨after, hexport, hsame⟩ := (exportTo_existing hread hdata).2 rfl
    obtain ⟨created, hcreated, heq⟩ := hsame .empty ⟨rfl, _, rfl⟩
    exact ⟨after, created, hexport, hcreated, heq⟩

end WebForm.CsvFile
