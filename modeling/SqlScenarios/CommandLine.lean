import SqlScenarios.CommandLine.Arguments
import SqlScenarios.Generation
import SqlScenarios.Output.Files

/-!
# The command line

A run reads a query, generates scenarios for it, asks a completion service if it is told to,
and prints the output or writes its files.  Every failure ends the run with exit code 2 and
one message.
-/

namespace SqlScenarios

/-- What a run leaves besides files. -/
structure RunResult where
  exitCode : Nat
  stdout : String
  stderr : String
  deriving DecidableEq, Repr

/-- The result of a run that failed for a reason. -/
def RunResult.failure (message : String) : RunResult := ⟨2, "", message ++ "\n"⟩

variable {m : Type → Type} [Monad m]

/-- Read the query of a run. -/
def QuerySource.read (system : FileSystem m) : QuerySource → m (Except Error String)
  | .text sql => return .ok sql
  | .file path => return (← system.readFile (Path.ofSystemText path)).mapError Error.file

/-- The start of the names of the files of a run: the stem of the file with the query, if it is a
text. -/
def QuerySource.outputName : QuerySource → String
  | .text _ => "query"
  | .file path => ((Path.ofSystemText path).stem?.bind SystemText.text?).getD "query"

/-- The model of a query and the scenarios for it. -/
def Options.prepare (options : Options) (sql : String) :
    Except Error (QueryModel × List Scenario) := do
  let dialect ← dialectNamed options.dialect
  let model ← QueryModel.ofText dialect sql
  let scenarios ← options.strategy.scenarios model
  return (model, scenarios)

/-- The supplement for a query, if one is asked for. -/
def Options.supplement (options : Options) (service : CompletionSettings → CompletionService m)
    (sql : String) : m (Except Error (Option String)) := do
  match options.completion with
  | none => return .ok none
  | some settings =>
      match ← supplementFor (service settings) sql with
      | .ok text => return .ok (some text)
      | .error fault => return .error (.completion fault)

/-- Print an output or write its files. -/
def Options.deliver (options : Options) (system : FileSystem m) (output : Output) :
    m (Except Error String) := do
  if options.stdout then return .ok (output.json ++ "\n")
  else
    let directory := Path.ofSystemText options.outputDirectory
    match ← output.write system directory options.source.outputName with
    | .ok () => return .ok ""
    | .error error => return .error error

/-- Run with given options; the result is what is printed. -/
def Options.run (options : Options) (system : FileSystem m)
    (service : CompletionSettings → CompletionService m) : m (Except Error String) := do
  match ← options.source.read system with
  | .error error => return .error error
  | .ok sql =>
      match options.prepare sql with
      | .error error => return .error error
      | .ok (model, scenarios) =>
          match ← options.supplement service sql with
          | .error error => return .error error
          | .ok supplement => options.deliver system (.of model scenarios supplement)

/-- Run with given arguments. -/
def runCommand (system : FileSystem m) (service : CompletionSettings → CompletionService m)
    (arguments : List SystemText) : m RunResult := do
  match parseArguments arguments with
  | .error fault => return .failure ("error: " ++ fault.message)
  | .ok options =>
      match ← options.run system service with
      | .ok text => return ⟨0, text, ""⟩
      | .error error => return .failure ("Error: " ++ error.message)

end SqlScenarios
