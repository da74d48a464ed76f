import WebForm.CommandLine

/-!
# The program

Reads the files that a command names, lets the command decide, and writes what it wants written.
-/

namespace WebForm.Program

open CommandLine

/-- What the system's account of a file error stands for. -/
def fileErrorOf (e : IO.Error) : FileError :=
  match e with
  | .noFileOrDirectory .. => .notFound
  | .inappropriateType _ 21 _ => .isDirectory
  | .inappropriateType _ 20 _ => .notDirectory
  | e => .other (toString e)

/-- The content of a file. -/
def readPath (path : String) : IO (Except FileError (List UInt8)) := do
  try
    let content ← IO.FS.readBinFile path
    pure (.ok content.toList)
  catch e => pure (.error (fileErrorOf e))

/-- The files that a command may read. -/
def pathsOf : Command → List String
  | .validate form data _ => form :: data.toList
  | .render form _ => [form]
  | .exportTo form data (.csv path) => [form, data, path]
  | .exportTo form data (.database _ _) => [form, data]
  | .help => []
  | .version => []

/-- All that is on standard input, when a command reads it. -/
def readStandardInput (command : Command) : IO (List UInt8) := do
  match command with
  | .validate _ none _ => pure (← (← IO.getStdin).readBinToEnd).toList
  | _ => pure []

/-- Write a file, and report how that went. -/
def carryOut (decision : Decision) : IO Report := do
  match decision with
  | .report r => pure r
  | .write path content r =>
    try
      IO.FS.writeBinFile path (ByteArray.mk content.toArray)
      pure r
    catch e => pure (writeFailure (fileErrorOf e))

/-- Answer a call on the files of the system. -/
def answerCall (arguments : List String) : IO Report := do
  match Command.parse arguments with
  | .error e => pure (.usage e)
  | .ok command =>
    let contents ← (pathsOf command).mapM fun path => do pure (path, ← readPath path)
    let input ← readStandardInput command
    let source : FileSource := fun path => (contents.lookup path).getD (.error .notFound)
    carryOut (decide source input command)

/-- Answer a call and give its exit status. -/
def run (arguments : List String) : IO UInt32 := do
  let report ← answerCall arguments
  (← IO.getStdout).putStr report.output
  match report.complaint with
  | some complaint => (← IO.getStderr).putStrLn complaint
  | none => pure ()
  pure report.status.toUInt32

end WebForm.Program

/-- Answer the call of the program. -/
def main (arguments : List String) : IO UInt32 := WebForm.Program.run arguments
