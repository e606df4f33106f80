import SqlScenarios.CommandLine

/-!
# The program

The command line on the file system of the machine.  No connection to a completion service is
made.
-/

namespace SqlScenarios

/-- The cause of a failed file operation. -/
def FileFault.ofIOError (error : IO.Error) : FileFault :=
  match error with
  | .noFileOrDirectory .. => .notFound
  | .alreadyExists .. => .alreadyExists
  | error => .other (toString error)

/-- Run a file operation. -/
def attemptFile {α : Type} (operation : IO α) : IO (Except FileFault α) := do
  try return .ok (← operation)
  catch error => return .error (.ofIOError error)

/-- Run a file operation on a path, which is out of reach if it is no text. -/
def attemptAt {α : Type} (path : Path) (operation : String → IO α) : IO (Except FileFault α) :=
  match path.text? with
  | some text => attemptFile (operation text)
  | none => return .error (.other "the name of the file is no text")

/-- The file system of the machine. -/
def machineFileSystem : FileSystem IO where
  readFile path := do
    match ← attemptAt path fun text => IO.FS.readBinFile text with
    | .error fault => return .error fault
    | .ok bytes =>
        match String.fromUTF8? bytes with
        | some text => return .ok text
        | none => return .error .invalidText
  createDirectories path := attemptAt path fun text => IO.FS.createDirAll text
  writeFile path content := attemptAt path fun text => IO.FS.writeFile text content

end SqlScenarios

/-- Run the command line. -/
def main (arguments : List String) : IO UInt32 := do
  let result ← SqlScenarios.runCommand SqlScenarios.machineFileSystem
    (fun settings _ => return .error settings.unreachable) (arguments.map .utf8)
  IO.print result.stdout
  IO.eprint result.stderr
  return UInt32.ofNat result.exitCode
