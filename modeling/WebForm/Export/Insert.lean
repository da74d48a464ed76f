import WebForm.Export.Record
import WebForm.Text.Replace

/-!
# Export to a database table

A record becomes one `INSERT` statement with a placeholder for each value; values are bound, never
written into the statement. Names stand between double quotes, and a quote in a name is doubled.
-/

namespace WebForm

/-- The kinds of database, which differ in their placeholders. -/
inductive DatabaseKind where
  | postgres
  | sqlite
  deriving DecidableEq, Repr

namespace DatabaseKind

/-- The kind of the database at a URL: PostgreSQL for its two schemes, else SQLite. -/
def ofUrl (url : String) : DatabaseKind :=
  if (Text.stripStart "postgres://".toList url.toList).isSome ||
      (Text.stripStart "postgresql://".toList url.toList).isSome then postgres
  else sqlite

/-- What a kind is called. -/
def label : DatabaseKind → String
  | postgres => "PostgreSQL"
  | sqlite => "SQLite"

/-- The placeholder of the value in place `n`, counted from 1. -/
def placeholder : DatabaseKind → Nat → String
  | postgres, n => "$" ++ toString n
  | sqlite, _ => "?"

end DatabaseKind

namespace Insert

/-- A name between quotes. -/
def quoteName (name : String) : String :=
  String.ofList ('"' :: (name.toList.flatMap (fun c => if c = '"' then ['"', '"'] else [c]) ++
    ['"']))

/-- The placeholders of `count` values. -/
def placeholders (kind : DatabaseKind) (count : Nat) : List String :=
  (List.range count).map fun n => kind.placeholder (n + 1)

/-- The statement that inserts one row. -/
def statement (kind : DatabaseKind) (table : String) (columns : List String) : String :=
  "INSERT INTO " ++ quoteName table ++ " (" ++
    String.intercalate ", " (columns.map quoteName) ++ ") VALUES (" ++
    String.intercalate ", " (placeholders kind columns.length) ++ ")"

/-- The statement for a record, when the table has a name and the record a value. -/
def ofRecord (kind : DatabaseKind) (table : Option String) (record : ExportRecord) :
    Except ExportError String :=
  match table.filter fun t => !t.isEmpty with
  | none => .error .missingTable
  | some table =>
    if record.isEmpty then .error .noData
    else .ok (statement kind table record.columns)

/-- What an export hands to a database. -/
structure Query where
  /-- The statement, with a placeholder for each value. -/
  text : String
  /-- What is bound to the placeholders, in their order. -/
  values : List String
  deriving DecidableEq, Repr

/-- The query for a record: its statement, and its values in the order of its fields. -/
def query (kind : DatabaseKind) (table : Option String) (record : ExportRecord) :
    Except ExportError Query :=
  (ofRecord kind table record).map fun text => ⟨text, record.data.values⟩

end Insert

end WebForm
