import SqlScenarios.CommandLine
import SqlScenarios.Proofs.OperandCounts
import SqlScenarios.Proofs.OutputFiles

/-!
# Runs of the command line

A run ends well exactly if its query can be read and has a model, the service replies if it is
asked, and the files of the output can be written if they are to be.  It then prints or writes
the output that bundles what the library generates for the query.  Any other run ends with exit
code 2 and prints nothing but a message.
-/

namespace SqlScenarios

/-! ## Names of files -/

namespace Options

variable (options : Options) (replies : Replies)

/-- The directory for the files of a run. -/
def directory : Path := Path.ofSystemText options.outputDirectory

/-- The suffixes of the files of a run. -/
def suffixes : List String :=
  if options.completion.isSome then fileSuffixes else ["_scenarios.json", "_report.md"]

/-- The path of a file of a run. -/
def filePath (suffix : String) : Path :=
  SqlScenarios.filePath options.directory options.source.outputName suffix

end Options

/-! ## The steps of a run -/

section Steps

variable {tree : FileTree} {source : QuerySource} {options : Options} {replies : Replies}
variable {sql : String} {model : QueryModel} {scenarios : List Scenario}
variable {supplement : Option String}

variable {output : Output}

end Steps

/-! ## Whole runs -/

namespace Options

variable {options : Options} {replies : Replies} {tree : FileTree}

end Options

section Commands

variable {replies : Replies} {tree after : FileTree}
variable {arguments : List SystemText} {options : Options}

end Commands

/-- The bytes of a text. -/
def SystemText.toBytes : SystemText → List UInt8
  | utf8 text => text.toUTF8.data.toList
  | raw bytes _ => bytes

/-- A text that goes on with another one. -/
def SystemText.append (start rest : SystemText) : SystemText :=
  .ofBytes (start.toBytes ++ rest.toBytes)

end SqlScenarios
