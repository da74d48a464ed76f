/-!
# CSV

A CSV file is a list of records, a record a list of cells, a cell a list of bytes. Cells are
separated by commas; a record ends at a line feed, a carriage return, or both; lines without
anything on them are no records. A cell that starts with a double quote goes on to the next quote
that stands alone: inside, two quotes are one and every other byte stands for itself. What follows
the closing quote up to the next comma or line end belongs to the cell as it is. Records may differ
in length. A byte-order mark at the start of the file is skipped.

The reader is a machine that takes one byte at a time, so reading two parts in turn is reading their
concatenation (`foldl_append`).

The writer puts a cell between quotes when it holds a comma, a quote or a line end, and doubles the
quotes inside. A record ends with a line feed. A record of one empty cell is written as two quotes,
since an empty line would be no record.
-/

namespace WebForm.Csv

/-- The bytes of a cell. -/
abbrev Cell := List UInt8

/-- The cells of a record. -/
abbrev Record := List Cell

/-- The comma. -/
def comma : UInt8 := 0x2C

/-- The double quote. -/
def quote : UInt8 := 0x22

/-- The line feed. -/
def lineFeed : UInt8 := 0x0A

/-- The carriage return. -/
def carriageReturn : UInt8 := 0x0D

/-- The byte ends a record. -/
def isBreak (b : UInt8) : Bool := b == lineFeed || b == carriageReturn

/-- Where the reader stands. -/
inductive Place where
  /-- Between records. -/
  | recordStart
  /-- Before the first byte of a cell. -/
  | cellStart
  /-- In a cell, not between quotes. -/
  | inCell
  /-- Between quotes. -/
  | inQuotes
  /-- After a quote between quotes: the closing one, or half of a double one. -/
  | afterQuote
  deriving DecidableEq, Repr

/-- The reader: its place, the cell and the record that it is reading, and the records that are
complete, all with the last element first. -/
structure Reader where
  place : Place
  cell : Cell
  cells : List Cell
  records : List Record

namespace Reader

/-- A reader that has read nothing. -/
def start : Reader := ⟨.recordStart, [], [], []⟩

/-- Add a byte to the cell. -/
def keep (r : Reader) (place : Place) (b : UInt8) : Reader :=
  { r with place := place, cell := b :: r.cell }

/-- End the cell. -/
def endCell (r : Reader) : Reader :=
  { r with place := .cellStart, cell := [], cells := r.cell.reverse :: r.cells }

/-- End the cell and the record. -/
def endRecord (r : Reader) : Reader :=
  { place := .recordStart, cell := [], cells := [],
    records := (r.cell.reverse :: r.cells).reverse :: r.records }

/-- A byte outside quotes, after the first of its cell. -/
def stepPlain (r : Reader) (b : UInt8) : Reader :=
  if b == comma then r.endCell
  else if isBreak b then r.endRecord
  else r.keep .inCell b

/-- The first byte of a cell. -/
def stepFirst (r : Reader) (b : UInt8) : Reader :=
  if b == quote then { r with place := .inQuotes } else r.stepPlain b

/-- Read one byte. -/
def step (r : Reader) (b : UInt8) : Reader :=
  match r.place with
  | .recordStart => if isBreak b then r else r.stepFirst b
  | .cellStart => r.stepFirst b
  | .inCell => r.stepPlain b
  | .inQuotes => if b == quote then { r with place := .afterQuote } else r.keep .inQuotes b
  | .afterQuote => if b == quote then r.keep .inQuotes b else r.stepPlain b

/-- The records at the end of the file: a record that has been started ends there. -/
def finish (r : Reader) : List Record :=
  match r.place with
  | .recordStart => r.records.reverse
  | _ => r.endRecord.records.reverse

end Reader

/-- The bytes of a file behind its byte-order mark. -/
def skipMark : List UInt8 → List UInt8
  | 0xEF :: 0xBB :: 0xBF :: bs => bs
  | bs => bs

/-- The reader after a whole file. -/
def read (bs : List UInt8) : Reader := (skipMark bs).foldl Reader.step .start

/-- The records of a file. -/
def records (bs : List UInt8) : List Record := (read bs).finish

/-- The file ends between the quotes of a cell. -/
def endsInQuotes (bs : List UInt8) : Bool := (read bs).place == .inQuotes

/-! ## Writing -/

/-- The cell has to stand between quotes. -/
def needsQuotes (cell : Cell) : Bool :=
  cell.any fun b => b == comma || b == quote || isBreak b

/-- A cell between quotes. -/
def quoted (cell : Cell) : List UInt8 :=
  quote :: (cell.flatMap (fun b => if b == quote then [quote, quote] else [b]) ++ [quote])

/-- A cell as written. -/
def writeCell (cell : Cell) : List UInt8 := if needsQuotes cell then quoted cell else cell

/-- Cells with commas between them. -/
def writeCells : List Cell → List UInt8
  | [] => []
  | [cell] => writeCell cell
  | cell :: cells => writeCell cell ++ comma :: writeCells cells

/-- A record as written, with its line feed. -/
def writeRecord (record : Record) : List UInt8 :=
  (if record = [[]] then quoted [] else writeCells record) ++ [lineFeed]

end WebForm.Csv
