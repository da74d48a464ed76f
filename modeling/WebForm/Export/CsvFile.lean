import WebForm.Csv
import WebForm.Export.Record
import WebForm.Text.Utf8

/-!
# Export to a CSV file

A record becomes one row at the end of a CSV file. A file that is missing or holds no record is
written anew, with the columns of the record as its header. A file that has a header keeps its
columns: the row holds the value of each column's field, and nothing under the columns that the
record does not know.
-/

namespace WebForm.CsvFile

open Text

/-- A row of texts. -/
def row (cells : List String) : List UInt8 := Csv.writeRecord (cells.map Utf8.encodeString)

/-- The content of a new file: a header and one row. -/
def create (record : ExportRecord) : List UInt8 := row record.columns ++ row record.data.values

/-- The value of a record under a column. -/
def cellFor (record : ExportRecord) (column : String) : String :=
  (record.data.get? (record.fieldFor column)).getD ""

/-- What is appended to a file with a header: a line feed where the file does not end with one, and
the row. -/
def addition (record : ExportRecord) (content : List UInt8) (header : List String) : List UInt8 :=
  (if content.getLast? = some Csv.lineFeed then [] else [Csv.lineFeed]) ++
    row (header.map (cellFor record))

/-- The texts of a header's cells, from cell `n` on. -/
def headerTexts : Nat → Csv.Record → Except ExportError (List String)
  | _, [] => .ok []
  | n, cell :: cells =>
    match Utf8.decodeString? cell with
    | none => .error (.header n (Utf8.validLength cell))
    | some text => (headerTexts (n + 1) cells).map (text :: ·)

/-- The header of a file: its first record, when it has one. -/
def header? (content : List UInt8) : Except ExportError (Option (List String)) :=
  match Csv.records content with
  | [] => .ok none
  | record :: _ => (headerTexts 0 record).map some

/-- The content of a file after the export of a record to it. -/
def contentAfter (record : ExportRecord) (content : List UInt8) :
    Except ExportError (List UInt8) :=
  match header? content with
  | .error e => .error e
  | .ok none => .ok (create record)
  | .ok (some header) => .ok (content ++ addition record content header)

/-- The content of a file after the export of a record to it, given what reading it before gives. A
missing file is created. -/
def newContent (record : ExportRecord) (old : Except FileError (List UInt8)) :
    Except ExportError (List UInt8) :=
  if record.isEmpty then .error .noData
  else
    match old with
    | .error .notFound => .ok (create record)
    | .error e => .error (.file e)
    | .ok content => contentAfter record content

/-- Export a record to the file at a path. -/
def exportTo (files : Files) (path : String) (record : ExportRecord) :
    Except ExportError Files :=
  match newContent record (files.read path) with
  | .error e => .error e
  | .ok content => (files.write path content).mapError .file

end WebForm.CsvFile
