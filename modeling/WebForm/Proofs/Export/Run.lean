import WebForm.Proofs.Export.Append
import WebForm.Proofs.Export.Columns

/-!
# Runs of exports

A CSV file that is built by exporting records one after another reads back as the records. The first
export creates the file with a header of its columns, every other one appends a row under that
header, and the reader finds the header and one row for each record, in order. A field that a record
does not have leaves its cell empty.

The header is read back from the file for every row, so the columns have to lead back to their
fields (`OwnsColumn`), and the first of them must not look like a byte-order mark.

Results:
* `isTable_create`: a new file is a table of one row.
* `exportAll_of_isTable`: a run keeps a table and adds a row for each record.
* `exportAll_of_creatable`: the whole run, from a path where nothing is.
-/

namespace WebForm.CsvFile

open Text

variable {files : Files} {path : String} {content : List UInt8} {record : ExportRecord}

/-- Export records one after another to the file at a path. -/
def exportAll (files : Files) (path : String) : List ExportRecord → Except ExportError Files
  | [] => .ok files
  | record :: records =>
    match exportTo files path record with
    | .error e => .error e
    | .ok files => exportAll files path records

/-! ## The first export -/

/-- A new file is a table of one row. -/
theorem isTable_create (hdata : record.isEmpty = false)
    (hmark : ∀ column ∈ record.columns.head?, column.toList.head? ≠ some '\uFEFF') :
    IsTable (create record) record.columns [record.data.values.map Utf8.encodeString] := by
  have hentries : record.data.entries ≠ [] := by
    simpa [ExportRecord.isEmpty, OrderedMap.isEmpty] using hdata
  have hvalues : record.data.values.map Utf8.encodeString ≠ [] := by
    simpa [OrderedMap.values] using hentries
  have hcolumns : record.columns ≠ [] := by
    simpa [ExportRecord.columns, OrderedMap.keys] using hentries
  apply IsTable.of_read
  unfold create row
  cases hc : record.columns with
  | nil => exact absurd hc hcolumns
  | cons column columns =>
    have hcell : ¬ Csv.mark <+: Utf8.encodeString column := fun h =>
      hmark column (by rw [hc]; rfl) (Utf8.head?_of_encodeChar_prefix h)
    rw [List.map_cons, Csv.read_writeRecord_append hcell, Csv.Reader.foldl_writeRecord hvalues]
    rfl

/-! ## The exports after it -/

/-- A run keeps a table and adds a row for each record. -/
theorem exportAll_of_isTable {columns : List String} : ∀ (records : List ExportRecord)
    {files : Files} {content : List UInt8} {rows : List Csv.Record},
    files.read path = .ok content → IsTable content columns rows →
    (∀ record ∈ records, record.isEmpty = false) →
    ∃ after new, exportAll files path records = .ok after ∧ after.read path = .ok new ∧
      IsTable new columns (rows ++ records.map fun record => rowFor record columns)
  | [], files, content, rows, hread, htable, _ =>
    ⟨files, content, rfl, hread, by rwa [List.map_nil, List.append_nil]⟩
  | record :: records, files, content, rows, hread, htable, hdata => by
    obtain ⟨next, hexport, hnext⟩ :=
      exportTo_of_isTable hread (hdata record List.mem_cons_self) htable
    obtain ⟨after, new, hrun, hafter, hnew⟩ :=
      exportAll_of_isTable records hnext (htable.append record)
        fun r hr => hdata r (List.mem_cons_of_mem _ hr)
    refine ⟨after, new, ?_, hafter, ?_⟩
    · rw [exportAll, hexport]
      exact hrun
    · rwa [List.map_cons, List.append_cons]

/-! ## The whole run -/

/-- The row of a record under the columns of another with the same map. -/
theorem rowFor_columns {map first : OrderedMap String} (data : OrderedMap String)
    (hown : ∀ field ∈ first.keys, (ExportRecord.mk first map).OwnsColumn field) :
    rowFor ⟨data, map⟩ (ExportRecord.mk first map).columns =
      first.keys.map fun field => Utf8.encodeString ((data.get? field).getD "") := by
  unfold rowFor ExportRecord.columns
  rw [List.map_map]
  refine List.map_congr_left fun field hfield => ?_
  have hback : (ExportRecord.mk data map).fieldFor ((ExportRecord.mk first map).columnFor field) =
      field := ExportRecord.fieldFor_columnFor (hown field hfield)
  rw [Function.comp_apply, hback]

/-- **A file built by a run of exports reads back as the records.** At a path where nothing is and
a file can be created, exporting records with one rename map succeeds every time, and the file
reads as the columns of the first record, no two alike, and one row for each record, in order, with
the record's value of each field of the first, or nothing where it has none. -/
theorem exportAll_of_creatable (hpath : files.Creatable path) (map first : OrderedMap String)
    (rest : List (OrderedMap String)) (hdata : ∀ data ∈ first :: rest, data.isEmpty = false)
    (hown : ∀ field ∈ first.keys, (ExportRecord.mk first map).OwnsColumn field)
    (hmark : ∀ column ∈ (ExportRecord.mk first map).columns.head?,
      column.toList.head? ≠ some '\uFEFF') :
    ∃ after content,
      exportAll files path ((first :: rest).map (ExportRecord.mk · map)) = .ok after ∧
        after.read path = .ok content ∧
        (ExportRecord.mk first map).columns.Nodup ∧
        Csv.records content =
          (ExportRecord.mk first map).columns.map Utf8.encodeString ::
            (first :: rest).map fun data => first.keys.map fun field =>
              Utf8.encodeString ((data.get? field).getD "") := by
  have hfirst : (ExportRecord.mk first map).isEmpty = false := hdata first List.mem_cons_self
  obtain ⟨next, hexport, hnext⟩ := exportTo_of_creatable hpath hfirst
  have hrest : ∀ record ∈ rest.map (ExportRecord.mk · map), record.isEmpty = false := by
    intro record hr
    obtain ⟨data, hd, rfl⟩ := List.mem_map.mp hr
    exact hdata data (List.mem_cons_of_mem _ hd)
  obtain ⟨after, content, hrun, hafter, htable⟩ :=
    exportAll_of_isTable _ hnext (isTable_create hfirst hmark) hrest
  refine ⟨after, content, ?_, hafter, ExportRecord.nodup_columns hown, ?_⟩
  · rw [List.map_cons, exportAll, hexport]
    exact hrun
  · have hvalues : first.values.map Utf8.encodeString =
        first.keys.map fun field => Utf8.encodeString ((first.get? field).getD "") := by
      rw [← first.map_keys_getD "", List.map_map]
      rfl
    rw [htable.records, List.map_map, List.singleton_append, List.map_cons, ← hvalues]
    refine congrArg (_ :: _ :: ·) (List.map_congr_left fun data _ => ?_)
    exact rowFor_columns data hown

/-- A rename map whose column stands over two lines, and an entry for a field without values. -/
def logMap : OrderedMap String := .ofList [("note", "a\nb"), ("phone", "Phone")]

/-- A record with a line end and a quote in its values. -/
def firstEntry : OrderedMap String := .ofList [("note", "1\r\n2"), ("name", "\"")]

/-- A record in another order, and one without the first field. -/
def laterEntries : List (OrderedMap String) :=
  [.ofList [("name", ","), ("note", "x")], .ofList [("name", "")]]

theorem exportAll_of_creatable_log : ∃ after content,
    exportAll .empty "log.csv" ((firstEntry :: laterEntries).map (ExportRecord.mk · logMap)) =
        .ok after ∧
      after.read "log.csv" = .ok content ∧
      Csv.records content =
        [["a\nb", "name"], ["1\r\n2", "\""], ["x", ","], ["", ""]].map
          (·.map Utf8.encodeString) := by
  have hpath : Files.Creatable .empty "log.csv" := ⟨rfl, _, rfl⟩
  obtain ⟨after, content, hrun, hafter, -, hrecords⟩ :=
    exportAll_of_creatable hpath logMap firstEntry laterEntries (by decide) (by decide)
      (by decide)
  exact ⟨after, content, hrun, hafter, hrecords⟩

/-- That nothing is at the path is not enough: its directory has to be there. -/
theorem not_exportAll_of_missing : ¬ ∀ (files : Files) (path : String),
    files.read path = .error .notFound →
    ∀ (map first : OrderedMap String) (rest : List (OrderedMap String)),
      (∀ data ∈ first :: rest, data.isEmpty = false) →
      (∀ field ∈ first.keys, (ExportRecord.mk first map).OwnsColumn field) →
      (∀ column ∈ (ExportRecord.mk first map).columns.head?,
        column.toList.head? ≠ some '\uFEFF') →
      ∃ after, exportAll files path ((first :: rest).map (ExportRecord.mk · map)) = .ok after := by
  intro h
  obtain ⟨after, hafter⟩ :=
    h .empty "missing/x.csv" rfl .empty (.ofList [("a", "1")]) [] (by decide) (by decide)
      (by decide)
  have herror : exportAll .empty "missing/x.csv"
      [⟨.ofList [("a", "1")], .empty⟩] = .error (.file .notFound) := rfl
  rw [List.map_cons, List.map_nil, herror] at hafter
  exact absurd hafter (by simp)

end WebForm.CsvFile
