import WebForm.Html
import WebForm.Text.Split

/-!
# Commands

The arguments of a call are a command and what it works on: the file of a form definition, and
options. An option has a long name after two dashes and may have a letter after one; its value comes
with `=`, right behind its letter, or as the next argument. Letters without a value may be written
together. After `--` nothing is an option.

No option may be given twice, no value may start with a dash unless it is a dash alone, and no path
may be empty.
-/

namespace WebForm

/-- Where valid data is exported to. -/
inductive ExportTarget where
  | csv (path : String)
  | database (url table : String)
  deriving DecidableEq, Repr

/-- What a call asks for. -/
inductive Command where
  /-- Hold a submission against a form; it is read from standard input unless a file is named. -/
  | validate (form : String) (data : Option String) (asJson : Bool)
  /-- Write a form as HTML. -/
  | render (form : String) (layout : Html.Layout)
  /-- Hold a submission against a form and export its valid data. -/
  | exportTo (form data : String) (target : ExportTarget)
  /-- Say how to call the program. -/
  | help
  /-- Say which program this is. -/
  | version
  deriving DecidableEq, Repr

/-- Why a call is not understood. -/
inductive UsageError where
  | missingCommand
  | unknownCommand (name : String)
  | unknownArgument (argument : String)
  | repeatedOption (name : String)
  | missingValue (name : String)
  | unexpectedValue (name : String)
  | emptyPath (name : String)
  | missingArgument (name : String)
  | conflict (first second : String)
  deriving DecidableEq, Repr

/-- What a call that is not understood is reported as. -/
def UsageError.message : UsageError → String
  | missingCommand => "a command is required"
  | unknownCommand name => "unknown command '" ++ name ++ "'"
  | unknownArgument argument => "unexpected argument '" ++ argument ++ "'"
  | repeatedOption name => "'" ++ name ++ "' is given more than once"
  | missingValue name => "'" ++ name ++ "' needs a value"
  | unexpectedValue name => "'" ++ name ++ "' takes no value"
  | emptyPath name => "the path for '" ++ name ++ "' is empty"
  | missingArgument name => "'" ++ name ++ "' is required"
  | conflict first second => "'" ++ first ++ "' cannot be used with '" ++ second ++ "'"

namespace Command

/-! ## Options -/

/-- An option that a command knows. -/
structure Switch where
  /-- The name after two dashes. -/
  long : String
  /-- The letter after one dash. -/
  short : Option Char
  /-- It has a value. -/
  valued : Bool
  deriving DecidableEq, Repr

/-- Asks for help, with every command. -/
def helpSwitch : Switch := ⟨"help", some 'h', false⟩

/-- What has been read of the arguments of a command. -/
structure Given where
  /-- The file of the form definition, once it has come. -/
  form : Option String
  /-- The options that have come, with their values. -/
  options : OrderedMap (Option String)

namespace Given

/-- Nothing read. -/
def empty : Given := ⟨none, .empty⟩

/-- Add an option. -/
def add (given : Given) (name : String) (value : Option String) : Except UsageError Given :=
  if given.options.contains name then .error (.repeatedOption name)
  else .ok { given with options := given.options.insert name value }

/-- Add an argument that is no option. -/
def addForm (given : Given) (argument : String) : Except UsageError Given :=
  match given.form with
  | none => .ok { given with form := some argument }
  | some _ => .error (.unknownArgument argument)

/-- The option has come. -/
def has (given : Given) (name : String) : Bool := given.options.contains name

/-- The value of an option, when it has come. -/
def value? (given : Given) (name : String) : Option String := (given.options.get? name).join

/-- The value of an option as a path, when it has come. -/
def path? (given : Given) (name : String) : Except UsageError (Option String) :=
  match given.value? name with
  | some "" => .error (.emptyPath name)
  | value => .ok value

/-- The file of the form definition. -/
def formPath (given : Given) : Except UsageError String :=
  match given.form with
  | none => .error (.missingArgument "form")
  | some "" => .error (.emptyPath "form")
  | some path => .ok path

end Given

/-- What one argument asks for: more options, the value of an option in the next argument, or
help. -/
inductive Step where
  | go (given : Given)
  | await (given : Given) (name : String)
  | stop

/-- The argument may be the value of the option before it. -/
def isValue (argument : String) : Bool :=
  argument.toList.head? ≠ some '-' || argument = "-"

/-- Read the letters after one dash. -/
def readLetters (switches : List Switch) : List Char → Given → Except UsageError Step
  | [], given => .ok (.go given)
  | c :: cs, given =>
    match switches.find? fun s => s.short = some c with
    | none => .error (.unknownArgument (String.ofList ['-', c]))
    | some s =>
      if s = helpSwitch then .ok .stop
      else if s.valued then
        match cs with
        | [] => .ok (.await given s.long)
        | '=' :: cs => (given.add s.long (some (String.ofList cs))).map .go
        | cs => (given.add s.long (some (String.ofList cs))).map .go
      else
        match given.add s.long none with
        | .error e => .error e
        | .ok given => readLetters switches cs given

/-- Read what follows two dashes: a name, and a value after the first `=`. -/
def readLong (switches : List Switch) (text : List Char) (given : Given) :
    Except UsageError Step :=
  let (name, value) := match Text.splitFirst '=' text with
    | some (name, value) => (String.ofList name, some (String.ofList value))
    | none => (String.ofList text, none)
  match switches.find? fun s => s.long = name, value with
  | none, _ => .error (.unknownArgument name)
  | some s, none =>
    if s = helpSwitch then .ok .stop
    else if s.valued then .ok (.await given name)
    else (given.add name none).map .go
  | some s, some value =>
    if s.valued then (given.add name (some value)).map .go
    else .error (.unexpectedValue name)

/-- Read one argument. -/
def readArgument (switches : List Switch) (argument : String) (given : Given) :
    Except UsageError Step :=
  match argument.toList with
  | '-' :: '-' :: text => readLong switches text given
  | '-' :: c :: cs => readLetters switches (c :: cs) given
  | _ => (given.addForm argument).map .go

/-- Read the arguments of a command. Without an answer, help is asked for. -/
def readArguments (switches : List Switch) :
    List String → Given → Except UsageError (Option Given)
  | [], given => .ok (some given)
  | argument :: rest, given =>
    if argument = "--" then (rest.foldlM Given.addForm given).map some
    else
      match readArgument switches argument given, rest with
      | .error e, _ => .error e
      | .ok .stop, _ => .ok none
      | .ok (.go given), rest => readArguments switches rest given
      | .ok (.await _ name), [] => .error (.missingValue name)
      | .ok (.await given name), value :: rest =>
        if isValue value then
          match given.add name (some value) with
          | .error e => .error e
          | .ok given => readArguments switches rest given
        else .error (.missingValue name)

/-! ## Commands -/

/-- The option for submitted data. -/
def dataSwitch : Switch := ⟨"data", some 'd', true⟩

/-- The options of `validate`. -/
def validateSwitches : List Switch := [dataSwitch, ⟨"json", none, false⟩, helpSwitch]

/-- The options of `render`. -/
def renderSwitches : List Switch :=
  [⟨"minify", some 'm', false⟩, ⟨"html5", none, false⟩, helpSwitch]

/-- The options of `export`. -/
def exportSwitches : List Switch :=
  [dataSwitch, ⟨"csv", none, true⟩, ⟨"database", none, true⟩, ⟨"table", some 't', true⟩,
    helpSwitch]

/-- The command `validate` from its arguments. -/
def ofValidate (given : Given) : Except UsageError Command := do
  let form ← given.formPath
  let data ← given.path? "data"
  .ok (.validate form data (given.has "json"))

/-- The command `render` from its arguments. -/
def ofRender (given : Given) : Except UsageError Command := do
  let form ← given.formPath
  .ok (.render form ⟨!given.has "minify", given.has "html5"⟩)

/-- Where to export: a CSV file or a table of a database, but not both. -/
def targetOf (given : Given) : Except UsageError ExportTarget := do
  let csv ← given.path? "csv"
  match csv, given.value? "database", given.value? "table" with
  | some _, some _, _ => .error (.conflict "csv" "database")
  | some path, none, _ => .ok (.csv path)
  | none, some url, some table => .ok (.database url table)
  | none, some _, none => .error (.missingArgument "table")
  | none, none, _ => .error (.missingArgument "csv")

/-- The command `export` from its arguments. -/
def ofExport (given : Given) : Except UsageError Command := do
  let form ← given.formPath
  let data ← given.path? "data"
  let target ← targetOf given
  match data with
  | some data => .ok (.exportTo form data target)
  | none => .error (.missingArgument "data")

/-- The commands by name: their options, and how they are made from their arguments. -/
def known : List (String × List Switch × (Given → Except UsageError Command)) :=
  [("validate", validateSwitches, ofValidate), ("render", renderSwitches, ofRender),
    ("export", exportSwitches, ofExport)]

/-- The names that help can be asked for. -/
def helpTopics : List String := "help" :: known.map (·.1)

/-- Help on all commands or on one. -/
def ofHelp : List String → Except UsageError Command
  | [] => .ok .help
  | [topic] => if helpTopics.contains topic then .ok .help else .error (.unknownCommand topic)
  | _ :: topic :: _ => .error (.unknownCommand topic)

/-- Understand the arguments of a call. -/
def parse : List String → Except UsageError Command
  | [] => .error .missingCommand
  | name :: arguments =>
    if name = "help" then ofHelp arguments
    else if name = "--help" || name = "-h" then .ok .help
    else if name = "--version" || name = "-V" then .ok .version
    else
      match known.lookup name with
      | none => .error (.unknownCommand name)
      | some (switches, make) =>
        match readArguments switches arguments .empty with
        | .error e => .error e
        | .ok none => .ok .help
        | .ok (some given) => make given

end Command

end WebForm
