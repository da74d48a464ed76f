import WebForm.OrderedMap
import WebForm.Text.Split
import WebForm.Text.Utf8

/-!
# Files

A tree of named files and directories, seen from one directory of it. Paths are read as usual: names
separated by `/`, where `.` and empty names stand for the directory itself and `..` for the one
above. Nothing is known outside the tree, and the directory above the first is the first itself.
-/

namespace WebForm

/-- What a path may lead to. -/
inductive FileNode where
  | file (content : List UInt8)
  | directory
  deriving DecidableEq, Repr

/-- Why a path cannot be read or written. -/
inductive FileError where
  | notFound
  | notDirectory
  | isDirectory
  | nameTooLong
  | nulInName
  /-- Any other reason, as the system words it. -/
  | other (reason : String)
  deriving DecidableEq, Repr

/-- What a file error is reported as. -/
def FileError.message : FileError → String
  | notFound => "No such file or directory (os error 2)"
  | notDirectory => "Not a directory (os error 20)"
  | isDirectory => "Is a directory (os error 21)"
  | nameTooLong => "File name too long (os error 36)"
  | nulInName => "file name contained an unexpected NUL byte"
  | other reason => reason

/-- Nodes by their names from the root down, joined by `/`. The root itself is always there. -/
abbrev Files := OrderedMap FileNode

namespace Files

/-! ## Paths -/

/-- The name of a node: its path without `.` and empty names. -/
def join (names : List String) : String := String.intercalate "/" names

/-- The node that a list of names leads to. -/
def node? (files : Files) (names : List String) : Option FileNode :=
  if names.isEmpty then some .directory else files.get? (join names)

/-- Follow names from a directory. Each name but the last has to lead to a directory. -/
def walk (files : Files) : List String → List String → Except FileError (List String)
  | at_, [] => .ok at_
  | at_, name :: names =>
    match files.node? at_ with
    | none => .error .notFound
    | some (.file _) => .error .notDirectory
    | some .directory =>
      if name = "" ∨ name = "." then walk files at_ names
      else if name = ".." then walk files at_.dropLast names
      else if 255 < name.utf8ByteSize then .error .nameTooLong
      else walk files (at_ ++ [name]) names

/-- The names that a path leads through, when it can be followed. Paths from the root lead out of
the tree. -/
def resolve (files : Files) (path : String) : Except FileError (List String) :=
  if path.toList.contains '\x00' then .error .nulInName
  else if path.isEmpty then .error .notFound
  else if 4096 ≤ path.utf8ByteSize then .error .nameTooLong
  else
    let names := Text.splitString '/' path
    if names.head? = some "" then
      if names.all (fun name => name = "" ∨ name = "." ∨ name = "..") then .ok []
      else .error .notFound
    else walk files [] names

/-- The path ends with `/`. -/
def namesDirectory (path : String) : Bool := path.toList.getLast? = some '/'

/-! ## Reading and writing -/

/-- The content of a file. -/
def read (files : Files) (path : String) : Except FileError (List UInt8) :=
  match files.resolve path with
  | .error e => .error e
  | .ok names =>
    match files.node? names with
    | none => .error .notFound
    | some .directory => .error .isDirectory
    | some (.file content) => .ok content

/-- The path ends with `/`, and without the slashes at its end it can be followed: it asks for a
directory where its last name stands. -/
def asksDirectory (files : Files) (path : String) : Bool :=
  namesDirectory path &&
    (files.resolve (String.ofList (path.toList.reverse.dropWhile (· = '/')).reverse)).isOk

/-- Create a file, or replace its content. -/
def write (files : Files) (path : String) (content : List UInt8) : Except FileError Files :=
  match files.resolve path with
  | .error e => .error (if files.asksDirectory path then .isDirectory else e)
  | .ok names =>
    match files.node? names with
    | some .directory => .error .isDirectory
    | some (.file _) | none => .ok (files.insert (join names) (.file content))

/-- Put a node into the tree, together with the directories that it needs. -/
def place (files : Files) (path : String) (node : FileNode) : Files :=
  let names := (Text.splitString '/' path).filter fun name => name ≠ "" ∧ name ≠ "."
  let above := (List.range names.length).tail.foldl
    (fun files n => files.insert (join (names.take n)) .directory) files
  if names.isEmpty then files else above.insert (join names) node

end Files

end WebForm
