import WebForm.CommandLine.Command
import WebForm.Definition
import WebForm.Export.CsvFile
import WebForm.Submission
import WebForm.Text.Character
import WebForm.Validation

/-!
# The command line

What a command does is decided from the files that it reads and from its standard input. At most one
file is written, and only when nothing else is left that can fail: `Decision` is what a command
reports, or the content that it wants written. `run` carries a decision out on a tree of files.
-/

namespace WebForm.CommandLine

/-- What reading a file at a path gives. -/
abbrev FileSource := String → Except FileError (List UInt8)

/-- Why a command fails. -/
inductive Failure where
  | unreadableForm (path : String)
  | malformedForm (path : String)
  | unreadableData (path : String)
  | unreadableInput
  | notJson
  | notObject
  | notUrlencoded
  | unknownRule (cause : UnknownRule)
  | invalid (errors : Nat)
  | unreachableDatabase (url : String)
  | exportFailed (cause : ExportError)

/-- What a failure is reported as. -/
def Failure.message : Failure → String
  | unreadableForm path => "Failed to read form definition: " ++ Text.quotePath path
  | malformedForm path => "Failed to parse form definition: " ++ Text.quotePath path
  | unreadableData path => "Failed to read data file: " ++ Text.quotePath path
  | unreadableInput => "Failed to read data from stdin"
  | notJson => "Submitted data is not valid JSON"
  | notObject => "Submitted JSON must be an object"
  | notUrlencoded => "Submitted data is not a valid urlencoded body"
  | unknownRule cause => cause.message
  | invalid errors => toString errors ++ " validation error(s)"
  | unreachableDatabase url => "Failed to connect to database: " ++ url
  | exportFailed cause => cause.message

/-- What a command leaves behind, its files apart. -/
structure Report where
  /-- The exit status. -/
  status : Nat
  /-- What is written to standard output. -/
  output : String
  /-- What is written to standard error. -/
  complaint : Option String
  deriving DecidableEq, Repr

namespace Report

/-- Success. -/
def success (output : String) : Report := ⟨0, output, none⟩

/-- A failure, after something has been written. -/
def failure (output : String) (e : Failure) : Report := ⟨1, output, some ("Error: " ++ e.message)⟩

/-- A call that is not understood. -/
def usage (e : UsageError) : Report := ⟨2, "", some ("error: " ++ e.message)⟩

end Report

/-- What a command wants done. -/
inductive Decision where
  /-- Nothing more than a report. -/
  | report (r : Report)
  /-- A file with a new content, and a report for when it is written. -/
  | write (path : String) (content : List UInt8) (r : Report)

/-! ## Reading -/

/-- The text of a file. -/
def readText? (source : FileSource) (path : String) : Option String :=
  match source path with
  | .ok content => Text.Utf8.decodeString? content
  | .error _ => none

/-- The definition of a form. -/
def readForm (source : FileSource) (path : String) : Except Failure Definition :=
  match readText? source path with
  | none => .error (.unreadableForm path)
  | some text => (Definition.ofToml text).mapError fun _ => .malformedForm path

/-- The submission of a JSON text, which has to be an object. -/
def submissionOfJson (text : String) : Except Failure (OrderedMap String) :=
  match Json.parse? text with
  | none => .error .notJson
  | some (.object members) => .ok (Submission.ofJson (.object members))
  | some _ => .error .notObject

/-- The submission of a urlencoded body; line ends after it are no part of it. -/
def submissionOfBody (text : String) : Except Failure (OrderedMap String) :=
  let body := Text.dropEndWhile (fun c => c = '\r' || c = '\n') text.toList
  (Urlencoded.decode (String.ofList body)).mapError fun _ => .notUrlencoded

/-- The submission of a text of either kind. -/
def submissionOf (isJson : Bool) (text : String) : Except Failure (OrderedMap String) :=
  if isJson then submissionOfJson text else submissionOfBody text

/-- The name of a file ends with `.json` and is more than that. -/
def isJsonPath (path : String) : Bool :=
  let name := ((Text.splitString '/' path).getLast?).getD ""
  match Text.splitLast '.' name.toList with
  | some (stem, extension) => !stem.isEmpty && extension = "json".toList
  | none => false

/-- The text is a JSON object rather than a urlencoded body. -/
def startsObject (text : String) : Bool := (Text.trimLeft text.toList).head? = some '\x7b'

/-- The submission of a file. -/
def readData (source : FileSource) (path : String) : Except Failure (OrderedMap String) :=
  match readText? source path with
  | none => .error (.unreadableData path)
  | some text => submissionOf (isJsonPath path) text

/-- The submission on standard input. -/
def readInput (input : List UInt8) : Except Failure (OrderedMap String) :=
  match Text.Utf8.decodeString? input with
  | none => .error .unreadableInput
  | some text => submissionOf (startsObject text) text

/-! ## Writing -/

/-- A heading, and a line for each entry under it. -/
def listing (heading : String) (entries : List String) : String :=
  heading ++ "\n\n" ++ String.join (entries.map fun e => "  " ++ e ++ "\n")

/-- A heading and the messages of failed rules. -/
def failureListing (heading : String) (outcome : Outcome) : String :=
  listing heading (outcome.errors.map ("✗ " ++ ·))

/-- An outcome as text. -/
def outcomeText (outcome : Outcome) : String :=
  if outcome.isValid then
    listing "Submission is valid" (outcome.validData.entries.map fun e =>
      "✓ " ++ e.1 ++ " = " ++ e.2)
  else failureListing "Submission is invalid" outcome

/-- How to call the program. -/
def helpText : String :=
  "Commands:\n" ++
  "  validate <FORM> [--data <DATA>] [--json]\n" ++
  "  render <FORM> [--minify] [--html5]\n" ++
  "  export <FORM> --data <DATA> --csv <CSV>\n" ++
  "  export <FORM> --data <DATA> --database <URL> --table <TABLE>\n"

/-- Which program this is. -/
def versionText : String := "rusty-forms 0.1.0\n"

/-! ## Commands -/

/-- Hold a submission against the form of a definition. -/
def outcomeOf (definition : Definition) (data : OrderedMap String) : Except Failure Outcome :=
  (validate definition.form data definition.registry).mapError .unknownRule

/-- A report of what could be made, or of why not. -/
def reportOf (result : Except Failure Report) : Report :=
  match result with
  | .ok r => r
  | .error e => .failure "" e

/-- The command `validate`. -/
def validateReport (source : FileSource) (input : List UInt8) (form : String)
    (data : Option String) (asJson : Bool) : Except Failure Report := do
  let definition ← readForm source form
  let submission ← match data with
    | some path => readData source path
    | none => readInput input
  let outcome ← outcomeOf definition submission
  let output := if asJson then outcome.toJson.pretty ++ "\n" else outcomeText outcome
  .ok ⟨if outcome.isValid then 0 else 1, output, none⟩

/-- The command `render`. -/
def renderReport (source : FileSource) (form : String) (layout : Html.Layout) :
    Except Failure Report := do
  let definition ← readForm source form
  .ok (.success (Html.page definition.form layout))

/-- The record of the valid data of an outcome. -/
def recordOf (definition : Definition) (outcome : Outcome) : ExportRecord :=
  ⟨outcome.validData, definition.columns⟩

/-- The command `export`. -/
def exportDecision (source : FileSource) (form data : String) (target : ExportTarget) :
    Except Failure Decision := do
  let definition ← readForm source form
  let submission ← readData source data
  let outcome ← outcomeOf definition submission
  if outcome.isValid then
    match target with
    | .csv path =>
      let content ← (CsvFile.newContent (recordOf definition outcome) (source path)).mapError
        .exportFailed
      .ok (.write path content (.success "✓ Exported to csv\n"))
    | .database url _ => .error (.unreachableDatabase url)
  else
    let output := failureListing "Submission is invalid, nothing exported" outcome
    .ok (.report (.failure output (.invalid outcome.errors.length)))

/-- What a command wants done. -/
def decide (source : FileSource) (input : List UInt8) : Command → Decision
  | .validate form data asJson => .report (reportOf (validateReport source input form data asJson))
  | .render form layout => .report (reportOf (renderReport source form layout))
  | .exportTo form data target =>
    match exportDecision source form data target with
    | .ok decision => decision
    | .error e => .report (.failure "" e)
  | .help => .report (.success helpText)
  | .version => .report (.success versionText)

/-- Why a decision could not be carried out. -/
def writeFailure (e : FileError) : Report := .failure "" (.exportFailed (.file e))

/-- Carry a command out on a tree of files. -/
def runCommand (files : Files) (input : List UInt8) (command : Command) : Report × Files :=
  match decide files.read input command with
  | .report r => (r, files)
  | .write path content r =>
    match files.write path content with
    | .ok files => (r, files)
    | .error e => (writeFailure e, files)

/-- Answer a call on a tree of files. -/
def run (files : Files) (input : List UInt8) (arguments : List String) : Report × Files :=
  match Command.parse arguments with
  | .ok command => runCommand files input command
  | .error e => (.usage e, files)

end WebForm.CommandLine
