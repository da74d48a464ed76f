import WebForm.OrderedMap
import WebForm.Files

/-!
# Records for export

One submission on its way out: values by field, in order, and a map that renames fields to columns.
A field without an entry, or with an empty one, is written to the column of its own name. Read
backwards, a column belongs to the first field that the map sends to it, or else to the field of its
own name.

`ExportError` says why an export did not complete.
-/

namespace WebForm

/-- Values by field, and columns by field. -/
structure ExportRecord where
  data : OrderedMap String
  map : OrderedMap String
  deriving DecidableEq

namespace ExportRecord

/-- No values and no renaming. -/
def empty : ExportRecord := ⟨.empty, .empty⟩

/-- A record of values without renaming. -/
def ofData (data : OrderedMap String) : ExportRecord := ⟨data, .empty⟩

/-- Set a value; a field that has one keeps its place. -/
def addData (record : ExportRecord) (name value : String) : ExportRecord :=
  { record with data := record.data.insert name value }

/-- Replace the whole map. -/
def setMap (record : ExportRecord) (map : OrderedMap String) : ExportRecord :=
  { record with map := map }

/-- There is nothing to export. -/
def isEmpty (record : ExportRecord) : Bool := record.data.isEmpty

/-- The column of a field. -/
def columnFor (record : ExportRecord) (field : String) : String :=
  match record.map.get? field with
  | some column => if column.isEmpty then field else column
  | none => field

/-- The field of a column. -/
def fieldFor (record : ExportRecord) (column : String) : String :=
  match record.map.entries.find? fun e => e.2 == column with
  | some e => e.1
  | none => column

/-- The columns of the values, in order. -/
def columns (record : ExportRecord) : List String := record.data.keys.map record.columnFor

end ExportRecord

/-! ## Failures -/

/-- Why an export did not complete. -/
inductive ExportError where
  /-- A file cannot be read or written. -/
  | file (cause : FileError)
  /-- A cell of the header is not UTF-8: which one, and how many of its bytes are. -/
  | header (cell valid : Nat)
  /-- The table has no name. -/
  | missingTable
  /-- The record is empty. -/
  | noData
  deriving DecidableEq, Repr

/-- What a failed export is reported as. -/
def ExportError.message : ExportError → String
  | file cause => "I/O error: " ++ cause.message
  | header cell valid =>
    "CSV error: CSV parse error: record 0 (line 1, field: " ++ toString cell ++
      ", byte: 0): invalid utf-8: invalid UTF-8 in field " ++ toString cell ++
      " near byte index " ++ toString valid
  | missingTable => "No table set for database export"
  | noData => "Nothing to export"

end WebForm
