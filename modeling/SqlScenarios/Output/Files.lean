import SqlScenarios.Error
import SqlScenarios.Output.Report

/-!
# Output files

An output is written to two files, or three if it has a supplement.  Their names start with a
name that must not lead out of the directory.
-/

namespace SqlScenarios

/-- Whether a name leads out of a directory, or is empty but for blanks. -/
def isUnsafeName (name : String) : Bool :=
  let path := Path.ofString name
  (Text.trim name).isEmpty || path.absolute || path.steps.contains .up ||
    name.toList.contains '/' || name.toList.contains '\\'

namespace Output

/-- The files of an output: the suffix of the name and the content of each. -/
def files (output : Output) : List (String × String) :=
  [("_scenarios.json", output.json), ("_report.md", output.report)] ++
    (output.supplement.map fun text => ("_ai.txt", text)).toList

variable {m : Type → Type} [Monad m]

/-- Write files into a directory until one cannot be written. -/
def writeFiles (system : FileSystem m) (directory : Path) (name : String) :
    List (String × String) → m (Except Error Unit)
  | [] => return .ok ()
  | (suffix, content) :: rest => do
      match ← system.writeFile (directory.join (Path.ofString (name ++ suffix))) content with
      | .ok () => writeFiles system directory name rest
      | .error fault => return .error (.file fault)

/-- Write an output into a directory, which is created if it is not there. -/
def write (system : FileSystem m) (directory : Path) (name : String) (output : Output) :
    m (Except Error Unit) := do
  if isUnsafeName name then return .error (.invalidOutputName name)
  else
    match ← system.createDirectories directory with
    | .ok () => writeFiles system directory name output.files
    | .error fault => return .error (.file fault)

end Output

end SqlScenarios
